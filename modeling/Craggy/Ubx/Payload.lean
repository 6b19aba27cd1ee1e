import Mathlib
import Craggy.Basic

/-!
# UBX payload reads

The UBX decoders (`ubx_msg_*` in the driver) read their payload through the
`getub`, `getsb`, `getleu16`, `getles16`, `getleu32`, `getles32` and `getled64`
macros of gpsd's `bits.h`, which is not in the source: each reads bytes at an
offset from the payload start, little-endian, and reinterprets the result as
the C type its name gives.  Nothing in them checks the offset against the
payload length `data_len`.

`ubx_parse` hands a decoder the pointer `&buf[6]` into `msg_buf`, so a read at
or past `data_len` reads what follows the payload there: the checksum, then the
rest of `msg_buf`.  A decoder step is therefore a `Decode` value: its result, a
value or the fault that stopped it, and its *reach*, one past the highest
payload offset it read.  The reach is kept on every path, faulted ones
included, so that "the decoder reads past `data_len`" is the observation
`data_len < reach`, not a fault.

The two faults are what has no defined outcome in C: `overRead`, a read past
the end of the buffer the decoder was given (past `msg_buf`), and `badIndex`,
a store into `skyview[]` or `raw.meas[]` outside `[0, MAXCHANNELS)`, raised by
the device module.

*Reads.*  Every read is `readOf` at its width (`getub_eq`, `getleu16_eq`, ...):
the value when its bytes lie in the buffer, the fault at its last byte
otherwise, and the reach `off + w` either way, as a C read touches all its
bytes.  The multi-byte reads take their high part first, which gives that
reach also when they fault; the value does not depend on the order.

*Results.*  `Decode.result_bind` makes a run's result `Except`'s bind of the
steps' results, so its outcome is reasoned about as an `Except` computation's,
through the `Always` and `Succeeds` simp sets.  Its reach is bounded above
through `Decode.reach_bind_le` and below through `Decode.le_reach_bind` and
`le_reach_foldlM`.
-/

namespace Craggy.Ubx

/-! ## Faults -/

/-- Why a decoder run has no defined outcome in C. -/
inductive UbxFault where
  /-- A read of byte `off` past the end of the buffer the decoder was given. -/
  | overRead (off : Nat)
  /-- A store into `skyview[idx]` or `raw.meas[idx]` with `idx` outside
  `[0, MAXCHANNELS)`. -/
  | badIndex (idx : Int)
  deriving DecidableEq, Repr

/-! ## The decoder monad -/

/-- A decoder step: its result, and how far into the payload it read. -/
structure Decode (α : Type) where
  /-- The value the step returns, or the fault that stopped it. -/
  result : Except UbxFault α
  /-- One past the highest payload offset the step read, `0` if it read none. -/
  reach : Nat

namespace Decode

variable {α β γ : Type}

/-- The step that reads nothing and returns `a`. -/
protected def pure (a : α) : Decode α := ⟨.ok a, 0⟩

/-- `x`, then `f` on its value: the reach of both, or of `x` alone when it faulted. -/
protected def bind (x : Decode α) (f : α → Decode β) : Decode β :=
  match x.result with
  | .ok a => ⟨(f a).result, max x.reach (f a).reach⟩
  | .error e => ⟨.error e, x.reach⟩

instance : Monad Decode where
  pure := Decode.pure
  bind := Decode.bind

@[simp] theorem mk_ok_bind (a : α) (n : Nat) (f : α → Decode β) :
    (⟨.ok a, n⟩ >>= f : Decode β) = ⟨(f a).result, max n (f a).reach⟩ := rfl

@[simp] theorem mk_error_bind (e : UbxFault) (n : Nat) (f : α → Decode β) :
    (⟨.error e, n⟩ >>= f : Decode β) = ⟨.error e, n⟩ := rfl

instance : LawfulMonad Decode := LawfulMonad.mk' Decode
  (fun x => by
    rcases x with ⟨_ | a, n⟩
    · rfl
    · show Decode.mk _ (max n 0) = _
      rw [Nat.max_zero]
      rfl)
  (fun a f => by
    show Decode.mk (f a).result (max 0 (f a).reach) = f a
    rw [Nat.zero_max])
  (fun x f g => by
    rcases x with ⟨_ | a, n⟩
    · rfl
    · simp only [mk_ok_bind]
      rcases f a with ⟨_ | b, m⟩
      · rfl
      · simp only [mk_ok_bind, Nat.max_assoc])

/-- The step that faults with `e` before reading anything. -/
def fault (e : UbxFault) : Decode α := ⟨.error e, 0⟩

@[simp] theorem result_pure (a : α) : (pure a : Decode α).result = .ok a := rfl

@[simp] theorem reach_pure (a : α) : (pure a : Decode α).reach = 0 := rfl

@[simp] theorem result_fault (e : UbxFault) : (fault e : Decode α).result = .error e := rfl

@[simp] theorem reach_fault (e : UbxFault) : (fault e : Decode α).reach = 0 := rfl

/-- A run's result is `Except`'s bind of the results of its steps. -/
@[simp] theorem result_bind (x : Decode α) (f : α → Decode β) :
    (x >>= f).result = x.result >>= fun a => (f a).result := by
  rcases x with ⟨_ | a, n⟩ <;> rfl

@[simp] theorem result_ite (c : Prop) [Decidable c] (x y : Decode α) :
    (if c then x else y).result = if c then x.result else y.result := apply_ite _ _ _ _


@[simp] theorem result_map (f : α → β) (x : Decode α) : (f <$> x).result = f <$> x.result := by
  rcases x with ⟨_ | a, n⟩ <;> rfl

@[simp] theorem reach_map (f : α → β) (x : Decode α) : (f <$> x).reach = x.reach := by
  rcases x with ⟨_ | a, n⟩
  · rfl
  · exact Nat.max_zero n

theorem reach_bind_of_ok {x : Decode α} {a : α} (f : α → Decode β) (h : x.result = .ok a) :
    (x >>= f).reach = max x.reach (f a).reach := by
  rcases x with ⟨_ | b, n⟩ <;> cases h
  rfl

/-- A run reads at least as far as its first step. -/
theorem le_reach_bind (x : Decode α) (f : α → Decode β) : x.reach ≤ (x >>= f).reach := by
  rcases x with ⟨_ | a, n⟩
  · exact le_refl n
  · exact le_max_left n _

/-! ## Postconditions

`x.Always P`: every value `x` returns satisfies `P`.  The simp lemmas below
push `Always` through binds, conditionals and reads, so that a property of a
decoder's result unfolds into one goal per path, in terms of the bytes read. -/

/-- Every value the step returns satisfies `P`. -/
def Always (x : Decode α) (P : α → Prop) : Prop := ∀ a, x.result = .ok a → P a

variable {P : α → Prop}

@[simp] theorem always_pure (a : α) : Always (pure a : Decode α) P ↔ P a :=
  ⟨fun h => h a rfl, fun h _ e => by cases e; exact h⟩

@[simp] theorem always_fault (e : UbxFault) : Always (fault e : Decode α) P ↔ True :=
  ⟨fun _ => trivial, fun _ _ h => by cases h⟩

@[simp] theorem always_bind (x : Decode β) (f : β → Decode α) :
    Always (x >>= f) P ↔ Always x fun b => Always (f b) P := by
  rcases x with ⟨_ | b, n⟩
  · exact ⟨fun _ _ h => (by cases h), fun _ _ h => (by cases h)⟩
  · exact ⟨fun h a e => (by cases e; exact h), fun h => h b rfl⟩

@[simp] theorem always_ite (c : Prop) [Decidable c] (x y : Decode α) :
    Always (if c then x else y) P ↔ (c → Always x P) ∧ (¬c → Always y P) := by
  split <;> simp_all

@[simp] theorem always_const (x : Decode α) : Always x (fun _ => True) ↔ True :=
  ⟨fun _ => trivial, fun _ _ _ => trivial⟩

@[simp] theorem always_map (f : β → α) (x : Decode β) : Always (f <$> x) P ↔ Always x fun b => P (f b) := by
  rw [← bind_pure_comp, always_bind]
  simp only [always_pure]

theorem Always.mono {x : Decode α} {Q : α → Prop} (h : Always x P) (hpq : ∀ a, P a → Q a) :
    Always x Q := fun a e => hpq a (h a e)

theorem Always.and {x : Decode α} {Q : α → Prop} (hp : Always x P) (hq : Always x Q) :
    Always x fun a => P a ∧ Q a := fun a e => ⟨hp a e, hq a e⟩

/-- A run reads below `n` when its first step does and, after each value of it, the rest does. -/
@[simp] theorem reach_bind_le {x : Decode β} {f : β → Decode α} {n : Nat} :
    (x >>= f).reach ≤ n ↔ x.reach ≤ n ∧ Always x fun b => (f b).reach ≤ n := by
  rcases x with ⟨_ | b, m⟩
  · exact ⟨fun h => ⟨h, fun _ h => (by cases h)⟩, fun h => h.1⟩
  · simp only [mk_ok_bind, max_le_iff]
    exact ⟨fun h => ⟨h.1, fun a e => (by cases e; exact h.2)⟩, fun h => ⟨h.1, h.2 b rfl⟩⟩

@[simp] theorem reach_ite_le (c : Prop) [Decidable c] (x y : Decode α) {n : Nat} :
    (if c then x else y).reach ≤ n ↔ (c → x.reach ≤ n) ∧ (¬c → y.reach ≤ n) := by
  split <;> simp_all

/-! ## Steps that end without a fault

`x.Succeeds`: `x` returns a value.  Its simp lemmas, with those of `Always`,
turn "this decoder does not fault" into one bound on the buffer length per
read, on each path. -/

/-- The step returns a value. -/
def Succeeds (x : Decode α) : Prop := ∃ a, x.result = .ok a

@[simp] theorem succeeds_pure (a : α) : Succeeds (pure a : Decode α) ↔ True :=
  iff_true_intro ⟨a, rfl⟩

@[simp] theorem succeeds_fault (e : UbxFault) : Succeeds (fault e : Decode α) ↔ False :=
  iff_false_intro fun ⟨_, h⟩ => by cases h

@[simp] theorem succeeds_bind (x : Decode β) (f : β → Decode α) :
    Succeeds (x >>= f) ↔ Succeeds x ∧ Always x fun b => Succeeds (f b) := by
  rcases x with ⟨_ | b, n⟩
  · exact ⟨fun ⟨_, h⟩ => (by cases h), fun ⟨⟨_, h⟩, _⟩ => (by cases h)⟩
  · exact ⟨fun h => ⟨⟨b, rfl⟩, fun a e => (by cases e; exact h)⟩, fun h => h.2 b rfl⟩

@[simp] theorem succeeds_map (f : β → α) (x : Decode β) : Succeeds (f <$> x) ↔ Succeeds x := by
  rw [← bind_pure_comp, succeeds_bind]
  simp only [succeeds_pure, always_const, and_true]

@[simp] theorem succeeds_ite (c : Prop) [Decidable c] (x y : Decode α) :
    Succeeds (if c then x else y) ↔ (c → Succeeds x) ∧ (¬c → Succeeds y) := by
  split <;> simp_all

end Decode

/-! ## Byte reads -/

/-- A read of `w` bytes at `off` whose value is `v`: `v` when the bytes lie in
the buffer, the fault at the last of them otherwise; its reach is `off + w`. -/
def readOf {α : Type} (buf : List UInt8) (off w : Nat) (v : α) : Decode α :=
  ⟨if off + w ≤ buf.length then .ok v else .error (.overRead (off + w - 1)), off + w⟩

/-- `getub(buf, off)`: `buf[off]`. -/
def getub (buf : List UInt8) (off : Nat) : Decode UInt8 :=
  ⟨match buf[off]? with
    | some b => .ok b
    | none => .error (.overRead off), off + 1⟩

/-- The signed value of `w` bits held in the natural number `n`. -/
def toSigned (w n : Nat) : Int := if n < 2 ^ (w - 1) then n else (n : Int) - 2 ^ w

/-- `getsb(buf, off)`: the byte at `off` as an `int8_t`. -/
def getsb (buf : List UInt8) (off : Nat) : Decode Int := do
  return toSigned 8 (← getub buf off).toNat

/-- `getleu16(buf, off)`: two bytes, the low one at `off`. -/
def getleu16 (buf : List UInt8) (off : Nat) : Decode Nat := do
  let hi ← getub buf (off + 1)
  let lo ← getub buf off
  return lo.toNat + 2 ^ 8 * hi.toNat

/-- `getles16(buf, off)`: `getleu16` as an `int16_t`. -/
def getles16 (buf : List UInt8) (off : Nat) : Decode Int := do
  return toSigned 16 (← getleu16 buf off)

/-- `getleu32(buf, off)`: four bytes, the low half at `off`. -/
def getleu32 (buf : List UInt8) (off : Nat) : Decode Nat := do
  let hi ← getleu16 buf (off + 2)
  let lo ← getleu16 buf off
  return lo + 2 ^ 16 * hi

/-- `getles32(buf, off)`: `getleu32` as an `int32_t`. -/
def getles32 (buf : List UInt8) (off : Nat) : Decode Int := do
  return toSigned 32 (← getleu32 buf off)

/-- `getleu64(buf, off)`: eight bytes, the low half at `off`. -/
def getleu64 (buf : List UInt8) (off : Nat) : Decode Nat := do
  let hi ← getleu32 buf (off + 4)
  let lo ← getleu32 buf off
  return lo + 2 ^ 32 * hi

/-! ## The values read -/

/-- The byte at `off`, `0` past the end of the buffer. -/
def byteAt (buf : List UInt8) (off : Nat) : UInt8 := buf[off]?.getD 0

/-- The little-endian 16 bit word at `off`. -/
def le16 (buf : List UInt8) (off : Nat) : Nat := (byteAt buf off).toNat + 2 ^ 8 * (byteAt buf (off + 1)).toNat

/-- The little-endian 32 bit word at `off`. -/
def le32 (buf : List UInt8) (off : Nat) : Nat := le16 buf off + 2 ^ 16 * le16 buf (off + 2)

/-- The little-endian 64 bit word at `off`. -/
def le64 (buf : List UInt8) (off : Nat) : Nat := le32 buf off + 2 ^ 32 * le32 buf (off + 4)

section Reads

variable {α β : Type} {buf : List UInt8} {off w : Nat} {v : α}

@[simp] theorem readOf_reach : (readOf buf off w v).reach = off + w := rfl

theorem readOf_result (h : off + w ≤ buf.length) : (readOf buf off w v).result = .ok v := by
  simp [readOf, h]

@[simp] theorem Decode.always_readOf {P : α → Prop} :
    Decode.Always (readOf buf off w v) P ↔ (off + w ≤ buf.length → P v) := by
  by_cases h : off + w ≤ buf.length <;> simp [Decode.Always, readOf, h]

@[simp] theorem Decode.succeeds_readOf : Decode.Succeeds (readOf buf off w v) ↔ off + w ≤ buf.length := by
  by_cases h : off + w ≤ buf.length <;> simp [Decode.Succeeds, readOf, h]

/-- A read of bytes in the buffer, followed by `f`: `f` on its value, reading
at least as far as the read. -/
theorem readOf_bind_of_le {f : α → Decode β} (h : off + w ≤ buf.length) :
    readOf buf off w v >>= f = ⟨(f v).result, max (off + w) (f v).reach⟩ := by
  simp only [readOf, h, if_true, Decode.mk_ok_bind]

/-- A read whose value is mapped is the read of the mapped value. -/
theorem readOf_bind_pure (f : α → β) :
    (readOf buf off w v >>= fun a => pure (f a)) = readOf buf off w (f v) := by
  by_cases h : off + w ≤ buf.length
  · simp only [readOf, h, if_true, Decode.mk_ok_bind, Decode.result_pure, Decode.reach_pure, Nat.max_zero]
  · simp only [readOf, h, if_false, Decode.mk_error_bind]

@[simp] theorem readOf_map (f : α → β) : f <$> readOf buf off w v = readOf buf off w (f v) :=
  readOf_bind_pure f

/-- The high part of a word at `off + w₁`, then its low part at `off`: the read
of the whole word. -/
theorem readOf_bind_readOf {w₁ w₂ : Nat} (f : α → β) :
    (readOf buf (off + w₁) w₂ v >>= fun a => readOf buf off w₁ (f a)) = readOf buf off (w₁ + w₂) (f v) := by
  unfold readOf
  rw [← Nat.add_assoc]
  by_cases h : off + w₁ + w₂ ≤ buf.length
  · simp only [h, if_true, Decode.mk_ok_bind, show off + w₁ ≤ buf.length by omega,
      max_eq_left (show off + w₁ ≤ off + w₁ + w₂ by omega)]
  · simp only [h, if_false, Decode.mk_error_bind]

theorem getub_eq : getub buf off = readOf buf off 1 (byteAt buf off) := by
  by_cases h : off < buf.length
  · simp [getub, readOf, byteAt, List.getElem?_eq_getElem h, Nat.succ_le_of_lt h]
  · simp [getub, readOf, byteAt, List.getElem?_eq_none (Nat.le_of_not_lt h), show ¬ off + 1 ≤ buf.length by omega]

theorem getsb_eq : getsb buf off = readOf buf off 1 (toSigned 8 (byteAt buf off).toNat) := by
  simp only [getsb, getub_eq, readOf_bind_pure]

theorem getleu16_eq : getleu16 buf off = readOf buf off 2 (le16 buf off) := by
  simp only [getleu16, getub_eq, readOf_bind_pure, readOf_bind_readOf]
  rfl

theorem getles16_eq : getles16 buf off = readOf buf off 2 (toSigned 16 (le16 buf off)) := by
  simp only [getles16, getleu16_eq, readOf_bind_pure]

theorem getleu32_eq : getleu32 buf off = readOf buf off 4 (le32 buf off) := by
  simp only [getleu32, getleu16_eq, readOf_bind_pure, readOf_bind_readOf]
  rfl

theorem getles32_eq : getles32 buf off = readOf buf off 4 (toSigned 32 (le32 buf off)) := by
  simp only [getles32, getleu32_eq, readOf_bind_pure]

theorem getleu64_eq : getleu64 buf off = readOf buf off 8 (le64 buf off) := by
  simp only [getleu64, getleu32_eq, readOf_bind_pure, readOf_bind_readOf]
  rfl

attribute [simp] getub_eq getsb_eq getleu16_eq getles16_eq getleu32_eq getles32_eq getleu64_eq

theorem byteAt_of_le (h : buf.length ≤ off) : byteAt buf off = 0 := by
  simp [byteAt, List.getElem?_eq_none h]

/-- Two buffers that agree on the `n` bytes from `a` hold the same bytes there. -/
theorem byteAt_eq_of_window {buf' : List UInt8} {a n j : Nat}
    (h : (buf.drop a).take n = (buf'.drop a).take n) (hj : j < n) : byteAt buf (a + j) = byteAt buf' (a + j) := by
  have := congrArg (·[j]?) h
  simp only [List.getElem?_take, hj, if_true, List.getElem?_drop] at this
  simp [byteAt, this]

/-- Two buffers that agree on the `n` bytes from `a` give the same read at an
offset among them: the same byte, or the same fault. -/
theorem getub_eq_of_window {buf' : List UInt8} {a n : Nat} (h : (buf.drop a).take n = (buf'.drop a).take n)
    (h1 : a ≤ off) (h2 : off < a + n) : getub buf off = getub buf' off := by
  have := congrArg (·[off - a]?) h
  simp only [List.getElem?_take, show off - a < n by omega, if_true, List.getElem?_drop,
    Nat.add_sub_cancel' h1] at this
  simp only [getub, this]

theorem getleu16_eq_of_window {buf' : List UInt8} {a n : Nat} (h : (buf.drop a).take n = (buf'.drop a).take n)
    (h1 : a ≤ off) (h2 : off + 2 ≤ a + n) : getleu16 buf off = getleu16 buf' off := by
  simp only [getleu16, getub_eq_of_window h h1 (by omega), getub_eq_of_window h (by omega : a ≤ off + 1) (by omega)]

theorem getleu32_eq_of_window {buf' : List UInt8} {a n : Nat} (h : (buf.drop a).take n = (buf'.drop a).take n)
    (h1 : a ≤ off) (h2 : off + 4 ≤ a + n) : getleu32 buf off = getleu32 buf' off := by
  simp only [getleu32, getleu16_eq_of_window h h1 (by omega),
    getleu16_eq_of_window h (by omega : a ≤ off + 2) (by omega)]

theorem getleu64_eq_of_window {buf' : List UInt8} {a n : Nat} (h : (buf.drop a).take n = (buf'.drop a).take n)
    (h1 : a ≤ off) (h2 : off + 8 ≤ a + n) : getleu64 buf off = getleu64 buf' off := by
  simp only [getleu64, getleu32_eq_of_window h h1 (by omega),
    getleu32_eq_of_window h (by omega : a ≤ off + 4) (by omega)]

end Reads

/-! ## Loops -/

section Loops

variable {σ α β : Type}

/-- An invariant of every state a `foldlM` over `Decode` passes through: it
holds at the start and every successful step keeps it. -/
theorem foldlM_invariant {P : σ → Prop} {f : σ → α → Decode σ}
    (hf : ∀ s a, P s → Decode.Always (f s a) P) :
    ∀ (xs : List α) (s : σ), P s → Decode.Always (xs.foldlM f s) P
  | [], s, hs => by simpa using hs
  | a :: as, s, hs => by
      rw [List.foldlM_cons, Decode.always_bind]
      exact fun t ht => foldlM_invariant hf as t (hf s a hs t ht)

/-- A `foldlM` over `Decode` whose every step raises `μ` by at most one raises
it by at most the number of steps. -/
theorem foldlM_le_add_length (μ : σ → Nat) {f : σ → α → Decode σ}
    (hf : ∀ s a, Decode.Always (f s a) fun s' => μ s' ≤ μ s + 1) :
    ∀ (xs : List α) (s : σ), Decode.Always (xs.foldlM f s) fun s' => μ s' ≤ μ s + xs.length
  | [], s => by simp
  | a :: as, s => by
      rw [List.foldlM_cons, Decode.always_bind]
      refine (hf s a).mono fun t ht => (foldlM_le_add_length μ hf as t).mono fun s' hs' => ?_
      simp only [List.length_cons]
      omega

/-- A `foldlM` over `Decode` that returns a value ran every step, so it read
at least as far as each step that reads at least `b a` whenever it returns. -/
theorem le_reach_foldlM (b : α → Nat) {f : σ → α → Decode σ}
    (hf : ∀ s a, Decode.Succeeds (f s a) → b a ≤ (f s a).reach) :
    ∀ (xs : List α) (s : σ), Decode.Succeeds (xs.foldlM f s) → ∀ a ∈ xs, b a ≤ (xs.foldlM f s).reach
  | [], _, _ => by simp
  | a :: as, s, h => by
      rw [List.foldlM_cons] at h ⊢
      obtain ⟨⟨t, ht⟩, hrest⟩ := (Decode.succeeds_bind _ _).1 h
      have hrest := hrest t ht
      rw [Decode.reach_bind_of_ok _ ht]
      intro x hx
      rcases List.mem_cons.1 hx with rfl | hx
      · exact (hf s x ⟨t, ht⟩).trans (le_max_left _ _)
      · exact (le_reach_foldlM b hf as t hrest x hx).trans (le_max_right _ _)

/-- A `mapM` over `Decode` succeeds when the step succeeds on every element. -/
theorem mapM_succeeds (f : α → Decode β) :
    ∀ xs : List α, (∀ a ∈ xs, Decode.Succeeds (f a)) → Decode.Succeeds (xs.mapM f)
  | [], _ => ⟨[], rfl⟩
  | a :: as, h => by
      obtain ⟨b, hb⟩ := h a (List.mem_cons_self a as)
      obtain ⟨bs, hbs⟩ := mapM_succeeds f as fun x hx => h x (List.mem_cons_of_mem a hx)
      exact ⟨b :: bs, by simp only [List.mapM_cons, Decode.result_bind, hb, hbs, except_ok_bind, Decode.result_pure]⟩

/-- A `mapM` over `Decode` whose every step reads below `n` reads below `n`. -/
theorem mapM_reach_le (f : α → Decode β) {n : Nat} :
    ∀ xs : List α, (∀ a ∈ xs, (f a).reach ≤ n) → (xs.mapM f).reach ≤ n
  | [], _ => Nat.zero_le n
  | a :: as, h => by
      simp only [List.mapM_cons, Decode.reach_bind_le, Decode.reach_pure, Nat.zero_le, Decode.always_const,
        and_true]
      exact ⟨h a (List.mem_cons_self a as), fun _ _ =>
        mapM_reach_le f as fun x hx => h x (List.mem_cons_of_mem a hx)⟩

end Loops

end Craggy.Ubx
