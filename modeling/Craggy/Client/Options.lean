import Craggy.Basic
import Craggy.Client.Session

/-!
# The option loops and `main` of the command line

Both drivers read their options in a `while (1)` loop over `getopt_long`, with
a `switch` on the option character.  `-h` and `-k` `malloc` a buffer of
`strlen(optarg) + 1` bytes and copy the argument into it.  `-n` `malloc`s one
too, but then copies its argument with `strcpy(hostname, optarg)` and keeps
what `strcpy` returns: `nonce` and `hostname` share `hostname`'s buffer, which
now holds the nonce text.  That copy writes through `NULL` when no `-h` came
before it, and past the end of `hostname`'s buffer when the nonce text is
longer than the host text.  `-i` and `-r` keep `atoi(optarg)` in a `uint8_t`,
and the tester copies `-p` into the 256 bytes of `simulator.port_name`.

After the loop, `hostname` holds the argument of the last `-h` or `-n`,
whichever came later, and `nonce` that of the last `-n`
(`options_hostname_last_host_or_nonce`); a `-n` right after a shorter `-h`
overruns the host's buffer, and one with no `-h` before it writes through
`NULL` (`craggyOptions_nonce_copy_faults`).

`craggyMain` is `main` of `cli/main.c` from the options on: the usage check,
the lengths of the decoded key and nonce, and the repeat loop of `Session`.
`result` starts at 1 and is never written, so every path returns 1.  When the
loop runs, every exchange passes the nonce decoded from the last `-n`, or the
generated one when there is none (`craggyMain_exchanges_use_option_nonce`),
and the loop makes at most `atoi` of the last `-r`, reduced modulo 256,
exchanges (`craggyMain_exchanges_le_repeats`).

`roughtimeTesterMain` is the tester's `main` from the options on.  Its usage
check asks for `-p` instead of `repeats >= 1`, and both its `error:` and
`exit:` labels end in `return 0` (the `assert(result != 0)` of `error:` holds,
`result` being 1).  So neither driver's exit status says whether a check or an
exchange failed.  A pass of the tester's loop does nothing until the GPS
thread sets `tp_lock`, so `main` returns only after a pass jumped to `error`
or after `repeats` rounds with the time pulse; until then it has no exit
status (`roughtimeTesterMain_returns_after_pulses`).
-/

namespace Craggy.Client

/-! ## C strings -/

/-- A `malloc`ed string: the bytes allocated, and the characters before its `NUL`. -/
structure CString where
  /-- The bytes of the buffer. -/
  size : Nat
  /-- The characters before the terminating `NUL`. -/
  chars : List UInt8
  /-- The characters and the `NUL` fit in the buffer. -/
  fits : chars.length + 1 ≤ size

/-- `strcpy(malloc(strlen(s) + 1), s)`. -/
def CString.dup (s : List UInt8) : CString := ⟨s.length + 1, s, Nat.le_refl _⟩

/-- Why the option loop has no defined outcome in C. -/
inductive OptionFault where
  /-- `strlen`, `strcpy` or `atoi` on an `optarg` that is `NULL`. -/
  | nullOptarg
  /-- `strcpy(hostname, optarg)` with `hostname` still `NULL`. -/
  | strcpyNull
  /-- `strcpy` of `len` bytes, the `NUL` included, into a buffer of `size`. -/
  | strcpyOverflow (size len : Nat)
  /-- `default: abort();` -/
  | abort
  deriving DecidableEq, Repr

/-- `optarg` used as a string. -/
def readOptarg : Option (List UInt8) → Except OptionFault (List UInt8)
  | some s => .ok s
  | none => .error .nullOptarg

/-- `strcpy(dst, src)` into a `malloc`ed buffer. -/
def strcpy (dst : Option CString) (src : List UInt8) : Except OptionFault CString :=
  match dst with
  | none => .error .strcpyNull
  | some d =>
    if h : src.length + 1 ≤ d.size then .ok ⟨d.size, src, h⟩
    else .error (.strcpyOverflow d.size (src.length + 1))

/-- The `uint8_t` an `int` converts to. -/
def toUInt8 (x : Int) : UInt8 := UInt8.ofNat (x % 256).toNat

/-! ## The option loop -/

/-- One call of `getopt_long`: the option character it returns, and `optarg`,
`NULL` for an optional long argument given without `=`. -/
structure Getopt where
  /-- The option character. -/
  c : Char
  /-- `optarg`. -/
  optarg : Option (List UInt8)

/-- The locals the option loop writes. -/
structure CliOptions where
  /-- `hostname`. -/
  hostname : Option CString
  /-- `nonce`. -/
  nonce : Option CString
  /-- `publicKey`. -/
  publicKey : Option CString
  /-- `gpsPort`, the tester's. -/
  gpsPort : Option (List UInt8)
  /-- `repeats`. -/
  repeats : UInt8
  /-- `intervals`. -/
  intervals : UInt8

/-- The locals before the loop: the pointers `NULL`, `repeats` and `intervals` 1. -/
def CliOptions.initial : CliOptions := ⟨none, none, none, none, 1, 1⟩

/-- The `switch (c)` the two drivers share; `portCase` is what each does with
`p`: the tester has a `case 'p'`, the command line only its `default`. -/
def optionSwitch (atoi : List UInt8 → Int)
    (portCase : CliOptions → Option (List UInt8) → Except OptionFault CliOptions)
    (o : CliOptions) (opt : Getopt) : Except OptionFault CliOptions :=
  match opt.c with
  | 'h' => do
    let arg ← readOptarg opt.optarg
    return { o with hostname := some (.dup arg) }
  | 'n' => do
    let arg ← readOptarg opt.optarg
    let buf ← strcpy o.hostname arg
    return { o with hostname := some buf, nonce := some buf }
  | 'k' => do
    let arg ← readOptarg opt.optarg
    return { o with publicKey := some (.dup arg) }
  | 'p' => portCase o opt.optarg
  | 'i' => do
    let arg ← readOptarg opt.optarg
    return { o with intervals := toUInt8 (atoi arg) }
  | 'r' => do
    let arg ← readOptarg opt.optarg
    return { o with repeats := toUInt8 (atoi arg) }
  | c => if c = '?' ∨ c.toNat = 0 then .ok o else .error .abort

section Cases

variable (atoi : List UInt8 → Int) (portCase : CliOptions → Option (List UInt8) → Except OptionFault CliOptions)
  (o : CliOptions) (s : List UInt8)

@[simp] theorem optionSwitch_host :
    optionSwitch atoi portCase o ⟨'h', some s⟩ = .ok { o with hostname := some (.dup s) } := rfl

@[simp] theorem optionSwitch_nonce :
    optionSwitch atoi portCase o ⟨'n', some s⟩ =
      (strcpy o.hostname s >>= fun buf => .ok { o with hostname := some buf, nonce := some buf }) := rfl

end Cases

/-- The size of `simulator.port_name`. -/
def portNameSize : Nat := 256

/-- The command line's `p`: its option string has none, so `p` falls to `default`. -/
def craggyPortCase (_ : CliOptions) (_ : Option (List UInt8)) : Except OptionFault CliOptions := .error .abort

/-- The tester's `case 'p'`: `gpsPort = strcpy(simulator.port_name, optarg)`. -/
def roughtimeTesterPortCase (o : CliOptions) (optarg : Option (List UInt8)) : Except OptionFault CliOptions := do
  let arg ← readOptarg optarg
  if arg.length + 1 ≤ portNameSize then return { o with gpsPort := some arg }
  else .error (.strcpyOverflow portNameSize (arg.length + 1))

/-- The switch of `cli/main.c`. -/
def craggyOptionSwitch (atoi : List UInt8 → Int) : CliOptions → Getopt → Except OptionFault CliOptions :=
  optionSwitch atoi craggyPortCase

/-- The switch of the roughtime tester. -/
def roughtimeTesterOptionSwitch (atoi : List UInt8 → Int) : CliOptions → Getopt → Except OptionFault CliOptions :=
  optionSwitch atoi roughtimeTesterPortCase

/-- The option loop of `cli/main.c` over what `getopt_long` returns. -/
def craggyOptions (atoi : List UInt8 → Int) (opts : List Getopt) : Except OptionFault CliOptions :=
  opts.foldlM (craggyOptionSwitch atoi) .initial

/-- The option loop of the roughtime tester. -/
def roughtimeTesterOptions (atoi : List UInt8 → Int) (opts : List Getopt) : Except OptionFault CliOptions :=
  opts.foldlM (roughtimeTesterOptionSwitch atoi) .initial

/-! ## Which option wins -/

/-- The `optarg` of the last option whose character satisfies `p`, or `dflt`
when there is none. -/
def lastOptarg (p : Char → Bool) (opts : List Getopt) (dflt : Option (List UInt8)) : Option (List UInt8) :=
  match opts.reverse.find? fun x => p x.c with
  | some x => x.optarg
  | none => dflt

theorem lastOptarg_of_forall (p : Char → Bool) {opts : List Getopt} (h : ∀ x ∈ opts, p x.c = false)
    (dflt : Option (List UInt8)) : lastOptarg p opts dflt = dflt := by
  unfold lastOptarg
  rw [List.find?_eq_none.mpr fun x hx => by simp [h x (List.mem_reverse.mp hx)]]

theorem lastOptarg_cons (p : Char → Bool) (x : Getopt) (opts : List Getopt) (dflt : Option (List UInt8)) :
    lastOptarg p (x :: opts) dflt = lastOptarg p opts (if p x.c then x.optarg else dflt) := by
  unfold lastOptarg
  rw [List.reverse_cons, List.find?_append]
  cases opts.reverse.find? fun x => p x.c with
  | some y => rfl
  | none => by_cases hx : p x.c <;> simp [hx]

/-- The characters of a string pointer. -/
def charsOf (s : Option CString) : Option (List UInt8) := s.map CString.chars

section Switch

variable {atoi : List UInt8 → Int} {portCase : CliOptions → Option (List UInt8) → Except OptionFault CliOptions}

/-- The `p` case leaves `hostname` and `nonce` alone. -/
def PortKeepsHost (portCase : CliOptions → Option (List UInt8) → Except OptionFault CliOptions) : Prop :=
  ∀ o optarg o', portCase o optarg = .ok o' → o'.hostname = o.hostname ∧ o'.nonce = o.nonce

theorem readOptarg_bind_ok {α : Type} {a : Option (List UInt8)} {f : List UInt8 → Except OptionFault α} {r : α}
    (h : (readOptarg a >>= f) = .ok r) : ∃ s, a = some s ∧ f s = .ok r := by
  cases a with
  | none => cases h
  | some s => exact ⟨s, rfl, h⟩

theorem strcpy_chars {dst : Option CString} {src : List UInt8} {buf : CString} (h : strcpy dst src = .ok buf) :
    buf.chars = src := by
  unfold strcpy at h
  split at h
  · cases h
  · split at h
    · cases h; rfl
    · cases h

/-- What one option does when it returns: each case of the switch with its
`optarg` and the locals it writes, and every other character keeps them. -/
theorem optionSwitch_cases {o o' : CliOptions} {opt : Getopt} (h : optionSwitch atoi portCase o opt = .ok o') :
    (opt.c = 'h' ∧ ∃ a, opt.optarg = some a ∧ o' = { o with hostname := some (.dup a) }) ∨
    (opt.c = 'n' ∧ ∃ a buf, opt.optarg = some a ∧ strcpy o.hostname a = .ok buf ∧
      o' = { o with hostname := some buf, nonce := some buf }) ∨
    (opt.c = 'k' ∧ ∃ a, opt.optarg = some a ∧ o' = { o with publicKey := some (.dup a) }) ∨
    (opt.c = 'p' ∧ portCase o opt.optarg = .ok o') ∨
    (opt.c = 'i' ∧ ∃ a, opt.optarg = some a ∧ o' = { o with intervals := toUInt8 (atoi a) }) ∨
    (opt.c = 'r' ∧ ∃ a, opt.optarg = some a ∧ o' = { o with repeats := toUInt8 (atoi a) }) ∨
    (opt.c ≠ 'h' ∧ opt.c ≠ 'n' ∧ opt.c ≠ 'k' ∧ opt.c ≠ 'p' ∧ opt.c ≠ 'i' ∧ opt.c ≠ 'r' ∧ o' = o) := by
  unfold optionSwitch at h
  split at h
  next _ hc =>
    obtain ⟨a, ha, h⟩ := readOptarg_bind_ok h
    cases h
    exact .inl ⟨hc, a, ha, rfl⟩
  next _ hc =>
    obtain ⟨a, ha, h⟩ := readOptarg_bind_ok h
    obtain ⟨buf, hbuf, h⟩ := except_bind_eq_ok h
    cases h
    exact .inr (.inl ⟨hc, a, buf, ha, hbuf, rfl⟩)
  next _ hc =>
    obtain ⟨a, ha, h⟩ := readOptarg_bind_ok h
    cases h
    exact .inr (.inr (.inl ⟨hc, a, ha, rfl⟩))
  next _ hc => exact .inr (.inr (.inr (.inl ⟨hc, h⟩)))
  next _ hc =>
    obtain ⟨a, ha, h⟩ := readOptarg_bind_ok h
    cases h
    exact .inr (.inr (.inr (.inr (.inl ⟨hc, a, ha, rfl⟩))))
  next _ hc =>
    obtain ⟨a, ha, h⟩ := readOptarg_bind_ok h
    cases h
    exact .inr (.inr (.inr (.inr (.inr (.inl ⟨hc, a, ha, rfl⟩)))))
  next _ hh hn hk hp hi hr =>
    split at h
    · cases h
      exact .inr (.inr (.inr (.inr (.inr (.inr ⟨hh, hn, hk, hp, hi, hr, rfl⟩)))))
    · cases h

/-- What one option does to `hostname` and `nonce`: `-h` sets the first, `-n`
both, to its argument; every other option keeps them. -/
theorem optionSwitch_host_nonce (hport : PortKeepsHost portCase) {o o' : CliOptions} {opt : Getopt}
    (h : optionSwitch atoi portCase o opt = .ok o') :
    charsOf o'.hostname = (if (opt.c == 'h' || opt.c == 'n') then opt.optarg else charsOf o.hostname) ∧
      charsOf o'.nonce = (if opt.c == 'n' then opt.optarg else charsOf o.nonce) := by
  rcases optionSwitch_cases h with ⟨hc, a, ha, rfl⟩ | ⟨hc, a, buf, ha, hbuf, rfl⟩ | ⟨hc, -, -, rfl⟩ | ⟨hc, h⟩ |
    ⟨hc, -, -, rfl⟩ | ⟨hc, -, -, rfl⟩ | ⟨hh, hn, -, -, -, -, rfl⟩
  · simp [charsOf, CString.dup, hc, ha]
  · simp [charsOf, strcpy_chars hbuf, hc, ha]
  · simp [hc]
  · obtain ⟨hh, hn⟩ := hport _ _ _ h
    simp [hh, hn, hc]
  · simp [hc]
  · simp [hc]
  · simp [hh, hn]

/-- Over the whole loop: `hostname` holds the argument of the last `-h` or
`-n`, and `nonce` that of the last `-n`, or what they held before. -/
theorem optionLoop_host_nonce (hport : PortKeepsHost portCase) :
    ∀ (opts : List Getopt) (o o' : CliOptions), opts.foldlM (optionSwitch atoi portCase) o = .ok o' →
      charsOf o'.hostname = lastOptarg (fun c => c == 'h' || c == 'n') opts (charsOf o.hostname) ∧
        charsOf o'.nonce = lastOptarg (· == 'n') opts (charsOf o.nonce)
  | [], o, o', h => by cases h; exact ⟨rfl, rfl⟩
  | opt :: opts, o, o', h => by
    rw [List.foldlM_cons] at h
    obtain ⟨o1, h1, h⟩ := except_bind_eq_ok h
    obtain ⟨hh, hn⟩ := optionSwitch_host_nonce hport h1
    rw [lastOptarg_cons, lastOptarg_cons, ← hh, ← hn]
    exact optionLoop_host_nonce hport opts o1 o' h

/-- The `p` case leaves `repeats` alone. -/
def PortKeepsRepeats (portCase : CliOptions → Option (List UInt8) → Except OptionFault CliOptions) : Prop :=
  ∀ o optarg o', portCase o optarg = .ok o' → o'.repeats = o.repeats

/-- What one option does to `repeats`: `-r` sets it to its argument through
`atoi` and the cast to `uint8_t`, every other option keeps it. -/
theorem optionSwitch_repeats (hport : PortKeepsRepeats portCase) {o o' : CliOptions} {opt : Getopt}
    (h : optionSwitch atoi portCase o opt = .ok o') :
    (opt.c = 'r' → ∃ a, opt.optarg = some a ∧ o'.repeats = toUInt8 (atoi a)) ∧
      (opt.c ≠ 'r' → o'.repeats = o.repeats) := by
  rcases optionSwitch_cases h with ⟨hc, -, -, rfl⟩ | ⟨hc, -, -, -, -, rfl⟩ | ⟨hc, -, -, rfl⟩ | ⟨hc, h⟩ |
    ⟨hc, -, -, rfl⟩ | ⟨hc, a, ha, rfl⟩ | ⟨-, -, -, -, -, hr, rfl⟩
  · simp [hc]
  · simp [hc]
  · simp [hc]
  · simp [hc, hport _ _ _ h]
  · simp [hc]
  · exact ⟨fun _ => ⟨a, ha, rfl⟩, fun h => absurd hc h⟩
  · exact ⟨fun h => absurd h hr, fun _ => rfl⟩

/-- Over the whole loop: `repeats` is the last `-r`'s argument through `atoi`
and the cast, or what it held before. -/
theorem optionLoop_repeats (hport : PortKeepsRepeats portCase) (r0 : UInt8) :
    ∀ (opts : List Getopt) (o o' : CliOptions) (d : Option (List UInt8)),
      o.repeats = d.elim r0 (fun a => toUInt8 (atoi a)) → opts.foldlM (optionSwitch atoi portCase) o = .ok o' →
      o'.repeats = (lastOptarg (· == 'r') opts d).elim r0 fun a => toUInt8 (atoi a)
  | [], o, o', d, hd, h => by cases h; exact hd
  | opt :: opts, o, o', d, hd, h => by
    rw [List.foldlM_cons] at h
    obtain ⟨o1, h1, h⟩ := except_bind_eq_ok h
    obtain ⟨hr, hnr⟩ := optionSwitch_repeats hport h1
    rw [lastOptarg_cons]
    refine optionLoop_repeats hport r0 opts o1 o' _ ?_ h
    by_cases hc : opt.c = 'r'
    · obtain ⟨a, ha, hrep⟩ := hr hc
      simp [hc, ha, hrep]
    · simp [hc, hnr hc, hd]

end Switch

theorem craggyPortCase_keepsHost : PortKeepsHost craggyPortCase := fun _ _ _ h => by cases h

theorem craggyPortCase_keepsRepeats : PortKeepsRepeats craggyPortCase := fun _ _ _ h => by cases h

theorem roughtimeTesterPortCase_keepsHost : PortKeepsHost roughtimeTesterPortCase := by
  intro o optarg o' h
  obtain ⟨s, -, h⟩ := readOptarg_bind_ok h
  split at h
  · cases h; exact ⟨rfl, rfl⟩
  · cases h

/-- After the option loop of either driver, `hostname` holds the argument of
the last `-h` or `-n`, whichever came later, and `nonce` the argument of the
last `-n`: `craggy_makeRequest` is sent to the nonce text whenever `-n` follows
`-h`. -/
theorem options_hostname_last_host_or_nonce (atoi : List UInt8 → Int) (opts : List Getopt) (o : CliOptions)
    (h : craggyOptions atoi opts = .ok o ∨ roughtimeTesterOptions atoi opts = .ok o) :
    charsOf o.hostname = lastOptarg (fun c => c == 'h' || c == 'n') opts none ∧
      charsOf o.nonce = lastOptarg (· == 'n') opts none := by
  rcases h with h | h
  · exact optionLoop_host_nonce craggyPortCase_keepsHost opts _ _ h
  · exact optionLoop_host_nonce roughtimeTesterPortCase_keepsHost opts _ _ h

/-- `-h ab -n c`. -/
def hostThenNonce : List Getopt := [⟨'h', some [0x61, 0x62]⟩, ⟨'n', some [0x63]⟩]

/-- The locals after `hostThenNonce`: `hostname` and `nonce` both hold `c`, in
the three bytes `malloc`ed for `ab`. -/
def hostThenNonceOptions : CliOptions :=
  ⟨some ⟨3, [0x63], by decide⟩, some ⟨3, [0x63], by decide⟩, none, none, 1, 1⟩

theorem options_nonce_after_host :
    craggyOptions (fun _ => 0) hostThenNonce = .ok hostThenNonceOptions ∧
      charsOf hostThenNonceOptions.hostname = lastOptarg (fun c => c == 'h' || c == 'n') hostThenNonce none ∧
      charsOf hostThenNonceOptions.nonce = lastOptarg (· == 'n') hostThenNonce none :=
  ⟨rfl, options_hostname_last_host_or_nonce (fun _ => 0) hostThenNonce hostThenNonceOptions (.inl rfl)⟩

/-- A `-n` right after a `-h` with a shorter argument copies past the end of
the host's buffer, and a `-n` with no `-h` or `-n` before it copies through
`NULL`, whatever options come before and after. -/
theorem craggyOptions_nonce_copy_faults (atoi : List UInt8 → Int) {pre : List Getopt} {o : CliOptions}
    (hpre : craggyOptions atoi pre = .ok o) (host nonce : List UInt8) (rest : List Getopt) :
    (host.length < nonce.length →
      craggyOptions atoi (pre ++ ⟨'h', some host⟩ :: ⟨'n', some nonce⟩ :: rest) =
        .error (.strcpyOverflow (host.length + 1) (nonce.length + 1))) ∧
    ((∀ x ∈ pre, x.c ≠ 'h' ∧ x.c ≠ 'n') →
      craggyOptions atoi (pre ++ ⟨'n', some nonce⟩ :: rest) = .error .strcpyNull) := by
  unfold craggyOptions at hpre ⊢
  simp only [List.foldlM_append]
  rw [hpre]
  simp only [List.foldlM_cons, craggyOptionSwitch, optionSwitch_host, optionSwitch_nonce, bind, Except.bind]
  constructor
  · intro hlt
    simp [strcpy, CString.dup, show ¬ nonce.length + 1 ≤ host.length + 1 by omega]
  · intro hno
    have hhost := (optionLoop_host_nonce craggyPortCase_keepsHost pre _ _ hpre).1
    rw [lastOptarg_of_forall _ (fun x hx => by simp [(hno x hx).1, (hno x hx).2])] at hhost
    cases ho : o.hostname with
    | some buf => simp [charsOf, CliOptions.initial, ho] at hhost
    | none => simp [strcpy, ho]

/-- With nothing before it, `-h a -n bc` overruns the two bytes of `a`, and
`-n bc` alone copies through `NULL`. -/
theorem craggyOptions_nonce_longer_than_host :
    craggyOptions (fun _ => 0) [] = .ok .initial ∧
      ([0x61].length < [0x62, 0x63].length →
        craggyOptions (fun _ => 0) ([] ++ ⟨'h', some [0x61]⟩ :: ⟨'n', some [0x62, 0x63]⟩ :: []) =
          .error (.strcpyOverflow ([0x61].length + 1) ([0x62, 0x63].length + 1))) ∧
      ((∀ x ∈ ([] : List Getopt), x.c ≠ 'h' ∧ x.c ≠ 'n') →
        craggyOptions (fun _ => 0) ([] ++ ⟨'n', some [0x62, 0x63]⟩ :: []) = .error .strcpyNull) :=
  ⟨rfl, @craggyOptions_nonce_copy_faults (fun _ => 0) [] .initial rfl [0x61] [0x62, 0x63] []⟩

/-! ## `main` -/

/-- Modelled from the spec: `CRAGGY_ROUGH_TIME_PUBLIC_KEY_LENGTH`, the 32 bytes of
the root public key. -/
def publicKeyLength : Nat := 32

section Main

variable {Response : Type} (processResponse : Nonce → Response → Option Reply)

/-- `main` of `cli/main.c` from `getopt_long`'s results on, given `atoi`,
`base64_decode` and what `craggy_generateNonce` returns: the exit status, and
the session of the repeat loop when `main` gets to it.  `intervals` only feeds
`sleep`, and is left out. -/
def craggyMain (atoi : List UInt8 → Int) (base64Decode : List UInt8 → List UInt8) (generated : Option Nonce)
    (opts : List Getopt) (rounds : List (Round Response)) : Except OptionFault (Int × Option (Session Response)) := do
  let result : Int := 1
  let o ← craggyOptions atoi opts
  match o.publicKey, o.hostname with
  | some publicKey, some _ =>
    if o.repeats < 1 then pure (1, none)
    else if (base64Decode publicKey.chars).length ≠ publicKeyLength then pure (result, none)
    else
      match setupNonce (o.nonce.map fun n => base64Decode n.chars) generated with
      | some nonceBytes =>
        pure (result, some (runLoop (craggyLoopBody processResponse) (.initial nonceBytes o.repeats.toNat) rounds))
      | none => pure (result, none)
  | _, _ => pure (1, none)

/-- What `main` can return: 1, after an option loop without a fault, and the
loop's session only when `repeats` is at least 1 and the nonce is set up. -/
theorem craggyMain_eq_ok {atoi : List UInt8 → Int} {base64Decode : List UInt8 → List UInt8}
    {generated : Option Nonce} {opts : List Getopt} {rounds : List (Round Response)}
    {r : Int × Option (Session Response)} (h : craggyMain processResponse atoi base64Decode generated opts rounds = .ok r) :
    ∃ o, craggyOptions atoi opts = .ok o ∧ r.1 = 1 ∧ ∀ s, r.2 = some s → 1 ≤ o.repeats.toNat ∧
      ∃ nonce, setupNonce (o.nonce.map fun n => base64Decode n.chars) generated = some nonce ∧
        s = runLoop (craggyLoopBody processResponse) (.initial nonce o.repeats.toNat) rounds := by
  unfold craggyMain at h
  obtain ⟨o, ho, h⟩ := except_bind_eq_ok h
  refine ⟨o, ho, ?_⟩
  split at h
  · split at h
    · cases h
      exact ⟨rfl, nofun⟩
    · rename_i hpos
      split at h
      · cases h
        exact ⟨rfl, nofun⟩
      · split at h
        · rename_i nonce hnonce
          cases h
          exact ⟨rfl, fun s hs => ⟨Nat.not_lt.mp hpos, nonce, hnonce, (Option.some.inj hs).symm⟩⟩
        · cases h
          exact ⟨rfl, nofun⟩
  · cases h
    exact ⟨rfl, nofun⟩

/-- `main` returns 1 whenever it returns, and when its loop runs, every call of
`craggy_processResponse` passes the nonce `base64_decode` makes of the last
`-n` (or `craggy_generateNonce`'s, when there is no `-n`) and gets the
validator's verdict on it. -/
theorem craggyMain_exchanges_use_option_nonce (atoi : List UInt8 → Int) (base64Decode : List UInt8 → List UInt8)
    (generated : Option Nonce) (opts : List Getopt) (rounds : List (Round Response)) {status : Int}
    {s : Session Response}
    (h : craggyMain processResponse atoi base64Decode generated opts rounds = .ok (status, some s)) :
    status = 1 ∧ ∃ nonce, setupNonce ((lastOptarg (· == 'n') opts none).map base64Decode) generated = some nonce ∧
      ∀ e ∈ s.exchanges, e.nonce = nonce ∧ e.reply = processResponse nonce e.response := by
  unfold craggyMain at h
  obtain ⟨o, ho, h⟩ := except_bind_eq_ok h
  have hn : (lastOptarg (· == 'n') opts none).map base64Decode = o.nonce.map fun n => base64Decode n.chars := by
    have hlast : charsOf o.nonce = lastOptarg (· == 'n') opts none :=
      (optionLoop_host_nonce craggyPortCase_keepsHost opts _ _ ho).2
    rw [← hlast, charsOf, Option.map_map]
    rfl
  split at h
  · split at h
    · cases h
    · split at h
      · cases h
      · split at h
        · rename_i nonce hnonce
          cases h
          exact ⟨rfl, nonce, hn ▸ hnonce, (nonceBound_runLoop processResponse
            (craggyLoopBody_recordsExchange processResponse) rounds _
            (nonceBound_initial processResponse nonce _)).2⟩
        · cases h
  · cases h

/-- `-h`, `-k` and `-n` with a 40 byte host, and the key and nonce as
`base64_decode` leaves them. -/
def mainOpts : List Getopt :=
  [⟨'h', some (List.replicate 40 0x68)⟩, ⟨'k', some (List.replicate 32 1)⟩, ⟨'n', some sampleNonce.bytes⟩]

theorem craggyMain_nonce_option_run :
    craggyMain craggyProcessResponse (fun _ => 0) id none mainOpts [replayRound] =
        .ok (1, some (runLoop (craggyLoopBody craggyProcessResponse) (.initial sampleNonce 1) [replayRound])) ∧
      (1 : Int) = 1 ∧ ∃ nonce, setupNonce ((lastOptarg (· == 'n') mainOpts none).map id) none = some nonce ∧
        ∀ e ∈ (runLoop (craggyLoopBody craggyProcessResponse) (.initial sampleNonce 1) [replayRound]).exchanges,
          e.nonce = nonce ∧ e.reply = craggyProcessResponse nonce e.response := by
  have h : craggyMain craggyProcessResponse (fun _ => 0) id none mainOpts [replayRound] =
      .ok (1, some (runLoop (craggyLoopBody craggyProcessResponse) (.initial sampleNonce 1) [replayRound])) := rfl
  exact ⟨h, craggyMain_exchanges_use_option_nonce craggyProcessResponse (fun _ => 0) id none mainOpts [replayRound] h⟩

/-- `repeats` after the option loop of the command line: the last `-r`'s
argument through `atoi` and the cast to `uint8_t`, or 1 when there is none. -/
def repeatsOption (atoi : List UInt8 → Int) (opts : List Getopt) : UInt8 :=
  (lastOptarg (· == 'r') opts none).elim 1 fun a => toUInt8 (atoi a)

/-- When `main` gets to its loop, `-r` has left a `repeats` of at least 1, and
the loop calls `craggy_processResponse` at most that many times: `atoi` of the
last `-r` reduced modulo 256, not the count given. -/
theorem craggyMain_exchanges_le_repeats (atoi : List UInt8 → Int) (base64Decode : List UInt8 → List UInt8)
    (generated : Option Nonce) (opts : List Getopt) (rounds : List (Round Response)) {status : Int}
    {s : Session Response}
    (h : craggyMain processResponse atoi base64Decode generated opts rounds = .ok (status, some s)) :
    1 ≤ (repeatsOption atoi opts).toNat ∧ s.exchanges.length ≤ (repeatsOption atoi opts).toNat := by
  obtain ⟨o, ho, -, hs⟩ := craggyMain_eq_ok processResponse h
  obtain ⟨hpos, nonce, -, rfl⟩ := hs s rfl
  have hrep : o.repeats = repeatsOption atoi opts := optionLoop_repeats craggyPortCase_keepsRepeats 1 opts _ _ none rfl ho
  rw [← hrep]
  exact ⟨hpos, runLoop_exchanges_le
    (spendsRepeats_of_outcome processResponse (craggyLoopBody_outcome processResponse)) _ _ rounds⟩

/-- `mainOpts` and `-r 300`. -/
def repeatsOpts : List Getopt := mainOpts ++ [⟨'r', some [0x33, 0x30, 0x30]⟩]

theorem craggyMain_repeats_wraps :
    repeatsOption (fun _ => 300) repeatsOpts = 44 ∧
      craggyMain craggyProcessResponse (fun _ => 300) id none repeatsOpts [replayRound] =
        .ok (1, some (runLoop (craggyLoopBody craggyProcessResponse) (.initial sampleNonce 44) [replayRound])) ∧
      1 ≤ (repeatsOption (fun _ => 300) repeatsOpts).toNat ∧
      (runLoop (craggyLoopBody craggyProcessResponse) (.initial sampleNonce 44) [replayRound]).exchanges.length
        ≤ (repeatsOption (fun _ => 300) repeatsOpts).toNat := by
  have h : craggyMain craggyProcessResponse (fun _ => 300) id none repeatsOpts [replayRound] =
      .ok (1, some (runLoop (craggyLoopBody craggyProcessResponse) (.initial sampleNonce 44) [replayRound])) := rfl
  exact ⟨rfl, h, craggyMain_exchanges_le_repeats craggyProcessResponse (fun _ => 300) id none repeatsOpts
    [replayRound] h⟩

/-- `main` of the roughtime tester from `getopt_long`'s results on, given
`atoi`, `base64_decode` and what `craggy_generateNonce` returns: the exit
status, and the session of the repeat loop when `main` gets to it.  The usage
check wants `-p` where the command line wants `repeats >= 1`, and the error
and exit labels both end in `return 0`.  The loop exits only when `repeats`
reaches 0 or a pass jumps to `error`; while it has not, after the rounds
given, `main` has not returned and there is no status.  The start of the
serial thread is left out. -/
def roughtimeTesterMain (atoi : List UInt8 → Int) (base64Decode : List UInt8 → List UInt8)
    (generated : Option Nonce) (opts : List Getopt) (rounds : List (Round Response)) :
    Except OptionFault (Option Int × Option (Session Response)) := do
  let o ← roughtimeTesterOptions atoi opts
  match o.publicKey, o.hostname, o.gpsPort with
  | some publicKey, some _, some _ =>
    if (base64Decode publicKey.chars).length ≠ publicKeyLength then pure (some 0, none)
    else
      match setupNonce (o.nonce.map fun n => base64Decode n.chars) generated with
      | some nonceBytes =>
        let s := runLoop (roughtimeTesterLoopBody processResponse) (.initial nonceBytes o.repeats.toNat) rounds
        pure (if 0 < s.repeats ∧ s.failed = false then none else some 0, some s)
      | none => pure (some 0, none)
  | _, _, _ => pure (some 1, none)

/-- What the tester's `main` can return, after an option loop without a
fault: status 1 without one of `-k`, `-h` (or `-n`) and `-p`, 0 otherwise, and,
once in the loop, its session, with status 0 once the loop has exited and none
while it runs. -/
theorem roughtimeTesterMain_eq_ok {atoi : List UInt8 → Int} {base64Decode : List UInt8 → List UInt8}
    {generated : Option Nonce} {opts : List Getopt} {rounds : List (Round Response)}
    {r : Option Int × Option (Session Response)}
    (h : roughtimeTesterMain processResponse atoi base64Decode generated opts rounds = .ok r) :
    ∃ o, roughtimeTesterOptions atoi opts = .ok o ∧
      (∀ status, r.1 = some status →
        status = if o.publicKey.isSome ∧ o.hostname.isSome ∧ o.gpsPort.isSome then 0 else 1) ∧
      ∀ s, r.2 = some s → (∃ nonce, s = runLoop (roughtimeTesterLoopBody processResponse)
          (.initial nonce o.repeats.toNat) rounds) ∧ r.1 = if 0 < s.repeats ∧ s.failed = false then none else some 0 := by
  unfold roughtimeTesterMain at h
  obtain ⟨o, ho, h⟩ := except_bind_eq_ok h
  refine ⟨o, ho, ?_⟩
  split at h
  · rename_i hk hh hp
    simp only [hk, hh, hp, Option.isSome_some, and_self, if_true]
    split at h
    · cases h
      exact ⟨fun _ hs => (Option.some.inj hs).symm, nofun⟩
    · split at h
      · rename_i nonce _
        cases h
        refine ⟨fun status hs => ?_, fun s hs => ?_⟩
        · split at hs
          · cases hs
          · exact (Option.some.inj hs).symm
        · cases hs
          exact ⟨⟨nonce, rfl⟩, rfl⟩
      · cases h
        exact ⟨fun _ hs => (Option.some.inj hs).symm, nofun⟩
  · rename_i hmiss
    cases h
    have hnot : ¬ (o.publicKey.isSome ∧ o.hostname.isSome ∧ o.gpsPort.isSome) := fun ⟨hk, hh, hp⟩ => by
      obtain ⟨k, hk⟩ := Option.isSome_iff_exists.mp hk
      obtain ⟨host, hh⟩ := Option.isSome_iff_exists.mp hh
      obtain ⟨port, hp⟩ := Option.isSome_iff_exists.mp hp
      exact hmiss k host port hk hh hp
    exact ⟨fun status hs => by rw [← Option.some.inj hs, if_neg hnot], nofun⟩

/-- `-h`, `-k` and `-p` for the tester. -/
def testerOpts : List Getopt :=
  [⟨'h', some (List.replicate 40 0x68)⟩, ⟨'k', some (List.replicate 31 1)⟩, ⟨'p', some [0x2f, 0x64]⟩]

/-- With a key that decodes to 31 bytes the tester stops before its loop and
still returns 0. -/
example : roughtimeTesterMain craggyProcessResponse (fun _ => 0) id none testerOpts [replayRound] =
    .ok (some 0, none) := rfl

/-! ## The tester waits for the time pulse -/

/-- A pass of the tester lowers `repeats` by at most one, and only in a round
with the time pulse flag. -/
theorem roughtimeTesterLoopBody_repeats (s : Session Response) (r : Round Response) :
    s.repeats ≤ (roughtimeTesterLoopBody processResponse s r).repeats + if r.tpLock then 1 else 0 := by
  unfold roughtimeTesterLoopBody
  cases r.tpLock
  case false => simp
  case true =>
    simp only [if_true]
    cases r.requestCreated
    case false => simp only [Bool.false_eq_true, if_false]; omega
    case true =>
      simp only [if_true]
      cases r.delivered with
      | none => simp
      | some response =>
        dsimp only
        cases processResponse (s.process processResponse response).nonceBytes response <;>
          simp only [Session.process] <;> omega

/-- A pass of the tester jumps to `error` only in a round with the time pulse flag. -/
theorem roughtimeTesterLoopBody_failed (s : Session Response) (r : Round Response)
    (h : (roughtimeTesterLoopBody processResponse s r).failed = true) : s.failed = true ∨ r.tpLock = true := by
  unfold roughtimeTesterLoopBody at h
  cases hp : r.tpLock
  case true => exact .inr rfl
  case false =>
    simp only [hp, Bool.false_eq_true, if_false] at h
    exact .inl h

/-- Over a run of the tester's loop, `repeats` goes down by at most the number
of rounds with the time pulse flag, and the loop jumps to `error` only in such
a round. -/
theorem runLoop_tester :
    ∀ (rounds : List (Round Response)) (s : Session Response),
      s.repeats ≤ (runLoop (roughtimeTesterLoopBody processResponse) s rounds).repeats +
          (rounds.filter (·.tpLock)).length ∧
        ((runLoop (roughtimeTesterLoopBody processResponse) s rounds).failed = true →
          s.failed = true ∨ ∃ r ∈ rounds, r.tpLock = true)
  | [], _ => ⟨Nat.le_add_right _ _, .inl⟩
  | r :: rs, s => by
    have hpass := roughtimeTesterLoopBody_repeats processResponse s r
    rw [runLoop, List.filter_cons]
    split
    · obtain ⟨hrep, hfail⟩ := runLoop_tester rs (roughtimeTesterLoopBody processResponse s r)
      refine ⟨by by_cases ht : r.tpLock <;>
        simp only [ht, Bool.false_eq_true, if_true, if_false, List.length_cons] at hpass ⊢ <;> omega, fun h => ?_⟩
      rcases hfail h with h | ⟨r', hr', ht⟩
      · exact (roughtimeTesterLoopBody_failed processResponse s r h).imp_right fun ht => ⟨r, .head _, ht⟩
      · exact .inr ⟨r', .tail _ hr', ht⟩
    · obtain ⟨hrep, hfail⟩ := runLoop_tester rs s
      refine ⟨by by_cases ht : r.tpLock <;>
        simp only [ht, Bool.false_eq_true, if_true, if_false, List.length_cons] <;> omega, fun h => ?_⟩
      exact (hfail h).imp_right fun ⟨r', hr', ht⟩ => ⟨r', .tail _ hr', ht⟩

/-- Once in its loop, the tester has exit status 0 exactly when the loop has
exited, and it exits only after at least `repeats` rounds in which the GPS
thread had set `tp_lock`, or after a pass that jumped to `error`, which also
needs such a round.  Without a time pulse it spins in `while (repeats > 0)`
and never returns, and when it returns, its status is 0 whether or not an
exchange failed. -/
theorem roughtimeTesterMain_returns_after_pulses (atoi : List UInt8 → Int) (base64Decode : List UInt8 → List UInt8)
    (generated : Option Nonce) (opts : List Getopt) (rounds : List (Round Response)) {status : Option Int}
    {s : Session Response}
    (h : roughtimeTesterMain processResponse atoi base64Decode generated opts rounds = .ok (status, some s)) :
    ∃ o, roughtimeTesterOptions atoi opts = .ok o ∧
      status = (if 0 < s.repeats ∧ s.failed = false then none else some 0) ∧
      (status ≠ none → o.repeats.toNat ≤ (rounds.filter (·.tpLock)).length ∨
        s.failed = true ∧ ∃ r ∈ rounds, r.tpLock = true) := by
  obtain ⟨o, ho, -, hs⟩ := roughtimeTesterMain_eq_ok processResponse h
  obtain ⟨⟨nonce, hrun⟩, hstatus⟩ := hs s rfl
  obtain ⟨hrep, hfail⟩ := runLoop_tester processResponse rounds (.initial nonce o.repeats.toNat)
  rw [← hrun] at hrep hfail
  refine ⟨o, ho, hstatus, fun hret => ?_⟩
  dsimp only at hstatus
  rw [hstatus] at hret
  cases hf : s.failed
  case true => exact .inr ⟨rfl, (hfail hf).resolve_left Bool.false_ne_true⟩
  case false =>
    simp only [hf, and_true, ne_eq, ite_eq_left_iff, not_lt, Nat.le_zero, not_forall] at hret
    obtain ⟨hzero, -⟩ := hret
    exact .inl (by simp only [Session.initial] at hrep; omega)

/-- `testerOpts` with a key that decodes to 32 bytes. -/
def testerFullKeyOpts : List Getopt :=
  [⟨'h', some (List.replicate 40 0x68)⟩, ⟨'k', some (List.replicate 32 1)⟩, ⟨'p', some [0x2f, 0x64]⟩]

/-- A round like `replayRound`, but before the GPS thread set `tp_lock`. -/
def noPulseRound : Round SignedResponse := { replayRound with tpLock := false }

theorem roughtimeTesterMain_one_pulse :
    roughtimeTesterMain craggyProcessResponse (fun _ => 0) id (some sampleNonce) testerFullKeyOpts [noPulseRound] =
        .ok (none, some (.initial sampleNonce 1)) ∧
      roughtimeTesterMain craggyProcessResponse (fun _ => 0) id (some sampleNonce) testerFullKeyOpts
          [noPulseRound, replayRound] =
        .ok (some 0, some (runLoop (roughtimeTesterLoopBody craggyProcessResponse) (.initial sampleNonce 1)
          [noPulseRound, replayRound])) ∧
      ∃ o, roughtimeTesterOptions (fun _ => 0) testerFullKeyOpts = .ok o ∧
        some (0 : Int) = (if 0 < (runLoop (roughtimeTesterLoopBody craggyProcessResponse) (.initial sampleNonce 1)
            [noPulseRound, replayRound]).repeats ∧ (runLoop (roughtimeTesterLoopBody craggyProcessResponse)
            (.initial sampleNonce 1) [noPulseRound, replayRound]).failed = false then none else some 0) ∧
        (some (0 : Int) ≠ none → o.repeats.toNat ≤ ([noPulseRound, replayRound].filter (·.tpLock)).length ∨
          (runLoop (roughtimeTesterLoopBody craggyProcessResponse) (.initial sampleNonce 1)
            [noPulseRound, replayRound]).failed = true ∧ ∃ r ∈ [noPulseRound, replayRound], r.tpLock = true) := by
  have h : roughtimeTesterMain craggyProcessResponse (fun _ => 0) id (some sampleNonce) testerFullKeyOpts
        [noPulseRound, replayRound] =
      .ok (some 0, some (runLoop (roughtimeTesterLoopBody craggyProcessResponse) (.initial sampleNonce 1)
        [noPulseRound, replayRound])) := rfl
  exact ⟨rfl, h, roughtimeTesterMain_returns_after_pulses craggyProcessResponse _ _ _ _ _ h⟩

end Main

end Craggy.Client
