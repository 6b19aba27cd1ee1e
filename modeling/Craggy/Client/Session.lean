import Craggy.Time.Epoch

/-!
# The repeat loop of the Roughtime drivers

Both drivers, the `craggy` command line (`cli/main.c`) and the roughtime
tester, fill `nonceBytes` once, before their `while (repeats > 0)` loop: from
`--nonce` when it is given and decodes to exactly 32 bytes, otherwise from
`craggy_generateNonce`.  Every pass of the loop then calls
`craggy_createRequest(nonceBytes, ...)` and
`craggy_processResponse(nonceBytes, ...)` with that same array.

A pass is a function of the session and of a `Round`: what the library calls
and the clocks return, including the response bytes the network delivers.  The
network is the adversary, so a round may deliver any response at all, in
particular one recorded in an earlier exchange.  The two loop bodies differ in
what follows an accepted response: the command line fails when its estimate is
more than ten minutes off the system clock, the tester waits for the time pulse
flag and checks nothing.

What one pass of either body can do is said once (`PassOutcome`): nothing,
spend a repeat, fail, or make one exchange and then fail or spend a repeat.
Each body thus only ever appends the exchange it made, with the session's own
nonce, and never writes `nonceBytes` (`RecordsExchange`).  From that alone
(`nonceBound_runLoop`), every exchange of every run uses the nonce chosen
before the loop, and a response accepted once is accepted again whenever the
network delivers it again (`loop_reuses_nonce`).  The responses a run passes
to `craggy_processResponse` are, in order, among those the network delivered,
and no delivery is processed twice (`runLoop_responses_delivered`).  The
validator itself, `craggy_processResponse`, is not in the source: the loop is
stated for any function in its place, and `craggyProcessResponse` is the
spec's validator, used for the concrete replay.

A pass spends a repeat on the exchange it makes, or ends the loop, so a run of
either driver makes at most `repeats` exchanges
(`runLoop_exchanges_le_repeats`), and the command line makes exactly that many
when every round goes through (`craggyLoop_good_rounds_complete`).

The command line's ten-minute check computes the offset of its estimate from
the system clock in `uint64_t` and converts it to `int64_t`; for clock
readings in order and values below `2^63` this is the offset on the integers
(`craggyLoopBody_offset_check`).
-/

namespace Craggy.Client

/-! ## Nonces, replies and rounds -/

/-- `CRAGGY_ROUGH_TIME_NONCE_LENGTH`. -/
def nonceLength : Nat := 32

/-- `craggy_rough_time_nonce_t`: thirty-two bytes, a length the type keeps. -/
structure Nonce where
  /-- The bytes. -/
  bytes : List UInt8
  /-- There are `CRAGGY_ROUGH_TIME_NONCE_LENGTH` of them. -/
  length_eq : bytes.length = nonceLength
  deriving DecidableEq

/-- What `craggy_processResponse` writes on success. -/
structure Reply where
  /-- `timestamp`: the server's midpoint, microseconds since the epoch. -/
  timestamp : UInt64
  /-- `radius`: the server's error bound in microseconds. -/
  radius : UInt32
  deriving DecidableEq, Repr

/-- What one pass of a loop body meets outside the driver: the results of the
library calls and the clock readings. -/
structure Round (Response : Type) where
  /-- `craggy_createRequest`'s result. -/
  requestCreated : Bool
  /-- `craggy_makeRequest`: the response the network delivers, `none` on a
  transport error. -/
  delivered : Option Response
  /-- `MonotonicUs()` before the request. -/
  startUs : UInt64
  /-- `MonotonicUs()` after the reply. -/
  endUs : UInt64
  /-- `RealtimeUs()` after the reply. -/
  endRealtimeUs : UInt64
  /-- `simulator.tp_lock`, read by the tester only. -/
  tpLock : Bool

/-- One call of `craggy_processResponse`: the nonce passed to it, the response
passed to it, and what it returned. -/
structure Exchange (Response : Type) where
  /-- The nonce argument. -/
  nonce : Nonce
  /-- The response argument. -/
  response : Response
  /-- The reply, `none` when the call returned false. -/
  reply : Option Reply

/-- The driver's state across passes of its loop. -/
structure Session (Response : Type) where
  /-- `nonceBytes`. -/
  nonceBytes : Nonce
  /-- `repeats`, a `uint8_t`. -/
  repeats : Nat
  /-- The driver has jumped to `error:`. -/
  failed : Bool
  /-- Every call of `craggy_processResponse`, oldest first. -/
  exchanges : List (Exchange Response)

/-! ## Before the loop -/

/-- `nonceBytes` as both drivers fill it: the decoded `--nonce` bytes when the
option is given and they are exactly 32, nothing (`goto error`) when they are
not, and `craggy_generateNonce`'s output otherwise. -/
def setupNonce (decodedNonce : Option (List UInt8)) (generated : Option Nonce) : Option Nonce :=
  match decodedNonce with
  | some bytes => if h : bytes.length = nonceLength then some ⟨bytes, h⟩ else none
  | none => generated

/-- `--nonce` is accepted exactly when it decodes to 32 bytes. -/
theorem setupNonce_some_iff (bytes : List UInt8) (generated : Option Nonce) :
    (setupNonce (some bytes) generated).isSome ↔ bytes.length = nonceLength := by
  unfold setupNonce
  split <;> simp_all

/-- The session the loop starts from. -/
def Session.initial {Response : Type} (nonceBytes : Nonce) (repeats : Nat) : Session Response :=
  ⟨nonceBytes, repeats, false, []⟩

/-! ## The loop bodies -/

section Bodies

variable {Response : Type} (processResponse : Nonce → Response → Option Reply)

/-- `kTenMinutes`, in microseconds. -/
def kTenMinutes : Nat := 10 * 60 * 1000000

/-- The `int64_t` a `uint64_t` converts to, two's complement. -/
def toInt64 (x : UInt64) : Int := if x.toNat < 2 ^ 63 then x.toNat else x.toNat - 2 ^ 64

/-- The call `craggy_processResponse(nonceBytes, ..., response, ...)` and its record. -/
def Session.process (s : Session Response) (response : Response) : Session Response :=
  { s with exchanges := s.exchanges ++ [⟨s.nonceBytes, response, processResponse s.nonceBytes response⟩] }

/-- The command line's loop body, lines 178 to 226 of `cli/main.c`: an
accepted reply moved by half the round trip must lie within ten minutes of the
system clock. -/
def craggyLoopBody (s : Session Response) (r : Round Response) : Session Response :=
  if r.requestCreated then
    match r.delivered with
    | none => { s with failed := true }
    | some response =>
      let s := s.process processResponse response
      match processResponse s.nonceBytes response with
      | none => { s with failed := true }
      | some reply =>
        let timestamp := reply.timestamp + (r.endUs - r.startUs) / 2
        if kTenMinutes < (toInt64 (timestamp - r.endRealtimeUs)).natAbs then { s with failed := true }
        else { s with repeats := s.repeats - 1 }
  else { s with repeats := s.repeats - 1 }

/-- The tester's loop body: nothing happens until the time pulse flag is set,
and an accepted reply is only logged. -/
def roughtimeTesterLoopBody (s : Session Response) (r : Round Response) : Session Response :=
  if r.tpLock then
    if r.requestCreated then
      match r.delivered with
      | none => { s with failed := true }
      | some response =>
        let s := s.process processResponse response
        match processResponse s.nonceBytes response with
        | none => { s with failed := true }
        | some _ => { s with repeats := s.repeats - 1 }
    else { s with repeats := s.repeats - 1 }
  else s

end Bodies

/-! ## What a pass can do -/

section Passes

variable {Response : Type} (processResponse : Nonce → Response → Option Reply)

/-- What every pass of both bodies does to the nonce and the exchanges: the
nonce stays, and the exchanges either stay or gain the one call this pass made,
with the session's nonce. -/
def RecordsExchange (body : Session Response → Round Response → Session Response) : Prop :=
  ∀ s r, (body s r).nonceBytes = s.nonceBytes ∧
    ((body s r).exchanges = s.exchanges ∨
      ∃ response, r.delivered = some response ∧
        (body s r).exchanges = s.exchanges ++ [⟨s.nonceBytes, response, processResponse s.nonceBytes response⟩])

@[simp] theorem Session.process_nonceBytes (s : Session Response) (response : Response) :
    (s.process processResponse response).nonceBytes = s.nonceBytes := rfl

@[simp] theorem Session.process_exchanges (s : Session Response) (response : Response) :
    (s.process processResponse response).exchanges
      = s.exchanges ++ [⟨s.nonceBytes, response, processResponse s.nonceBytes response⟩] := rfl

/-- What one pass of either body can do: nothing (the tester without its time
pulse), spend a repeat or fail without an exchange, or make the exchange with
the delivered response and then fail or spend a repeat. -/
def PassOutcome (s : Session Response) (r : Round Response) (s' : Session Response) : Prop :=
  s' = s ∨ s' = { s with repeats := s.repeats - 1 } ∨ s' = { s with failed := true } ∨
    ∃ response, r.delivered = some response ∧
      (s' = { s.process processResponse response with failed := true } ∨
        s' = { s.process processResponse response with repeats := s.repeats - 1 })

theorem craggyLoopBody_outcome (s : Session Response) (r : Round Response) :
    PassOutcome processResponse s r (craggyLoopBody processResponse s r) := by
  unfold craggyLoopBody
  split
  · split
    · exact .inr (.inr (.inl rfl))
    · rename_i response h
      refine .inr (.inr (.inr ⟨response, h, ?_⟩))
      dsimp only [Session.process_nonceBytes]
      split
      · exact .inl rfl
      · split
        · exact .inl rfl
        · exact .inr rfl
  · exact .inr (.inl rfl)

theorem roughtimeTesterLoopBody_outcome (s : Session Response) (r : Round Response) :
    PassOutcome processResponse s r (roughtimeTesterLoopBody processResponse s r) := by
  unfold roughtimeTesterLoopBody
  split
  · split
    · split
      · exact .inr (.inr (.inl rfl))
      · rename_i response h
        refine .inr (.inr (.inr ⟨response, h, ?_⟩))
        dsimp only [Session.process_nonceBytes]
        split
        · exact .inl rfl
        · exact .inr rfl
    · exact .inr (.inl rfl)
  · exact .inl rfl

theorem recordsExchange_of_outcome {body : Session Response → Round Response → Session Response}
    (hbody : ∀ s r, PassOutcome processResponse s r (body s r)) : RecordsExchange processResponse body := by
  intro s r
  rcases hbody s r with h | h | h | ⟨response, hd, h | h⟩ <;> rw [h]
  · exact ⟨rfl, .inl rfl⟩
  · exact ⟨rfl, .inl rfl⟩
  · exact ⟨rfl, .inl rfl⟩
  · exact ⟨rfl, .inr ⟨response, hd, rfl⟩⟩
  · exact ⟨rfl, .inr ⟨response, hd, rfl⟩⟩

theorem craggyLoopBody_recordsExchange : RecordsExchange processResponse (craggyLoopBody processResponse) :=
  recordsExchange_of_outcome processResponse (craggyLoopBody_outcome processResponse)

theorem roughtimeTesterLoopBody_recordsExchange :
    RecordsExchange processResponse (roughtimeTesterLoopBody processResponse) :=
  recordsExchange_of_outcome processResponse (roughtimeTesterLoopBody_outcome processResponse)

end Passes

/-! ## Runs -/

section Runs

variable {Response : Type} (processResponse : Nonce → Response → Option Reply)

/-- The loop driven by the rounds the environment and the network choose: a
round is one pass while `repeats > 0` and the driver has not failed, and once
the loop has exited the rest change nothing. -/
def runLoop (body : Session Response → Round Response → Session Response) :
    Session Response → List (Round Response) → Session Response
  | s, [] => s
  | s, r :: rs => runLoop body (if 0 < s.repeats ∧ s.failed = false then body s r else s) rs

/-- The nonce is `nonce`, and every recorded call passed it and got the
validator's verdict on it. -/
def NonceBound (nonce : Nonce) (s : Session Response) : Prop :=
  s.nonceBytes = nonce ∧ ∀ e ∈ s.exchanges, e.nonce = nonce ∧ e.reply = processResponse nonce e.response

theorem nonceBound_initial (nonce : Nonce) (repeats : Nat) :
    NonceBound processResponse nonce (Session.initial nonce repeats : Session Response) :=
  ⟨rfl, by simp [Session.initial]⟩

theorem nonceBound_pass {body : Session Response → Round Response → Session Response}
    (hbody : RecordsExchange processResponse body) {nonce : Nonce} {s : Session Response}
    (hs : NonceBound processResponse nonce s) (r : Round Response) :
    NonceBound processResponse nonce (body s r) := by
  obtain ⟨hn, hx⟩ := hbody s r
  obtain ⟨hsn, hse⟩ := hs
  refine ⟨hn.trans hsn, ?_⟩
  rcases hx with hx | ⟨response, -, hx⟩
  · rwa [hx]
  · rw [hx]
    intro e he
    rcases List.mem_append.mp he with he | he
    · exact hse e he
    · simp only [List.mem_singleton] at he
      subst he
      exact ⟨hsn, by rw [hsn]⟩

theorem nonceBound_runLoop {body : Session Response → Round Response → Session Response}
    (hbody : RecordsExchange processResponse body) {nonce : Nonce} :
    ∀ (rounds : List (Round Response)) (s : Session Response), NonceBound processResponse nonce s →
      NonceBound processResponse nonce (runLoop body s rounds)
  | [], _, hs => hs
  | r :: rs, s, hs => by
      unfold runLoop
      split
      · exact nonceBound_runLoop hbody rs _ (nonceBound_pass processResponse hbody hs r)
      · exact nonceBound_runLoop hbody rs _ hs

/-- In a session, every call passed `nonce`, and two calls given the same
response got the same reply. -/
def ReplaysAccepted (nonce : Nonce) (s : Session Response) : Prop :=
  ∀ e₁ ∈ s.exchanges, e₁.nonce = nonce ∧
    ∀ e₂ ∈ s.exchanges, e₂.response = e₁.response → e₂.reply = e₁.reply

theorem NonceBound.replaysAccepted {nonce : Nonce} {s : Session Response}
    (hs : NonceBound processResponse nonce s) : ReplaysAccepted nonce s := by
  intro e₁ h₁
  refine ⟨(hs.2 e₁ h₁).1, fun e₂ h₂ hr => ?_⟩
  rw [(hs.2 e₂ h₂).2, (hs.2 e₁ h₁).2, hr]

/-- Whatever the rounds, every call of `craggy_processResponse` in a run of
either driver passes the nonce chosen before the loop, and a response the
network delivers to two exchanges gets the same reply in both: accepted once,
it is accepted again, with the same timestamp and radius. -/
theorem loop_reuses_nonce (nonce : Nonce) (repeats : Nat) (rounds : List (Round Response)) :
    ReplaysAccepted nonce
        (runLoop (craggyLoopBody processResponse) (.initial nonce repeats) rounds)
      ∧ ReplaysAccepted nonce
        (runLoop (roughtimeTesterLoopBody processResponse) (.initial nonce repeats) rounds) :=
  ⟨(nonceBound_runLoop processResponse (craggyLoopBody_recordsExchange processResponse) rounds _
      (nonceBound_initial processResponse nonce repeats)).replaysAccepted processResponse,
    (nonceBound_runLoop processResponse (roughtimeTesterLoopBody_recordsExchange processResponse)
      rounds _ (nonceBound_initial processResponse nonce repeats)).replaysAccepted processResponse⟩

/-- Each active pass adds at most the exchange of its own round's delivery, so
a run adds exchanges whose responses are, in order, among the deliveries of its
rounds. -/
theorem runLoop_responses {body : Session Response → Round Response → Session Response}
    (hbody : RecordsExchange processResponse body) :
    ∀ (rounds : List (Round Response)) (s : Session Response), ∃ new : List (Exchange Response),
      (runLoop body s rounds).exchanges = s.exchanges ++ new ∧
        (new.map (·.response)).Sublist (rounds.filterMap (·.delivered))
  | [], s => ⟨[], (List.append_nil _).symm, .slnil⟩
  | r :: rs, s => by
    have htail : (rs.filterMap (·.delivered)).Sublist ((r :: rs).filterMap (·.delivered)) :=
      (List.sublist_cons_self r rs).filterMap _
    unfold runLoop
    split
    · obtain ⟨new, hnew, hsub⟩ := runLoop_responses hbody rs (body s r)
      rcases (hbody s r).2 with hx | ⟨response, hd, hx⟩
      · exact ⟨new, by rw [hnew, hx], hsub.trans htail⟩
      · refine ⟨_ :: new, by rw [hnew, hx, List.append_assoc, List.singleton_append], ?_⟩
        rw [List.map_cons, List.filterMap_cons_some hd]
        exact hsub.cons₂ response
    · obtain ⟨new, hnew, hsub⟩ := runLoop_responses hbody rs s
      exact ⟨new, hnew, hsub.trans htail⟩

theorem runLoop_initial_responses {body : Session Response → Round Response → Session Response}
    (hbody : RecordsExchange processResponse body) (nonce : Nonce) (repeats : Nat) (rounds : List (Round Response)) :
    ((runLoop body (.initial nonce repeats) rounds).exchanges.map (·.response)).Sublist
      (rounds.filterMap (·.delivered)) := by
  obtain ⟨new, hnew, hsub⟩ := runLoop_responses processResponse hbody rounds (.initial nonce repeats)
  rw [hnew]
  exact hsub

/-- Whatever the rounds, the responses either driver passes to
`craggy_processResponse` are, in order, among those the network delivered:
each delivery is processed at most once, and nothing else is processed. -/
theorem runLoop_responses_delivered (nonce : Nonce) (repeats : Nat) (rounds : List (Round Response)) :
    ((runLoop (craggyLoopBody processResponse) (.initial nonce repeats) rounds).exchanges.map (·.response)).Sublist
        (rounds.filterMap (·.delivered)) ∧
      ((runLoop (roughtimeTesterLoopBody processResponse) (.initial nonce repeats) rounds).exchanges.map
        (·.response)).Sublist (rounds.filterMap (·.delivered)) :=
  ⟨runLoop_initial_responses processResponse (craggyLoopBody_recordsExchange processResponse) nonce repeats rounds,
    runLoop_initial_responses processResponse (roughtimeTesterLoopBody_recordsExchange processResponse) nonce repeats
      rounds⟩

end Runs

/-! ## A replay against the spec's validator -/

/-- Modelled from the spec: `craggy_processResponse` is not in the source.  A
response as the validator sees it once decoded: the nonce whose Merkle leaf
`PATH` and `INDX` prove under `SREP.ROOT`, whether both signatures verify, and
the signed midpoint (in microseconds since the epoch) and radius. -/
structure SignedResponse where
  /-- The nonce of the proved leaf. -/
  leafNonce : Nonce
  /-- The certificate and response signatures verify. -/
  signaturesValid : Bool
  /-- `SREP.MIDP`, converted. -/
  midp : UInt64
  /-- `SREP.RADI`. -/
  radi : UInt32
  deriving DecidableEq

/-- Modelled from the spec: `craggy_processResponse` accepts a response exactly
when both signatures verify and its Merkle leaf is the nonce's. -/
def craggyProcessResponse (nonce : Nonce) (response : SignedResponse) : Option Reply :=
  if response.signaturesValid ∧ response.leafNonce = nonce then some ⟨response.midp, response.radi⟩
  else none

/-- A nonce `craggy_generateNonce` may return. -/
def sampleNonce : Nonce := ⟨List.replicate 32 7, rfl⟩

/-- The server's honest response to `sampleNonce`. -/
def sampleResponse : SignedResponse := ⟨sampleNonce, true, 1625585148000000, 10000⟩

/-- A round that delivers `sampleResponse` instantly, with the system clock on
its midpoint. -/
def replayRound : Round SignedResponse := ⟨true, some sampleResponse, 0, 0, 1625585148000000, true⟩

/-- With two repeats, the command line passes the same nonce to both exchanges
and accepts the response of the first when the network delivers it again in
the second. -/
theorem craggy_accepts_replayed_response :
    ((runLoop (craggyLoopBody craggyProcessResponse) (.initial sampleNonce 2)
        [replayRound, replayRound]).exchanges.map fun e => (e.nonce, e.reply))
      = [(sampleNonce, some ⟨1625585148000000, 10000⟩), (sampleNonce, some ⟨1625585148000000, 10000⟩)] := by
  decide


/-! ## How many exchanges a run makes -/

section Count

variable {Response : Type} (processResponse : Nonce → Response → Option Reply)

theorem runLoop_of_stopped (body : Session Response → Round Response → Session Response) {s : Session Response}
    (h : ¬ (0 < s.repeats ∧ s.failed = false)) : ∀ rounds, runLoop body s rounds = s
  | [] => rfl
  | _ :: rs => by rw [runLoop, if_neg h, runLoop_of_stopped body h rs]

/-- The calls of `craggy_processResponse` a session has made, and the passes
it may still make. -/
def Session.budget (s : Session Response) : Nat :=
  s.exchanges.length + if s.failed then 0 else s.repeats

theorem Session.exchanges_length_le_budget (s : Session Response) : s.exchanges.length ≤ s.budget :=
  Nat.le_add_right _ _

@[simp] theorem Session.budget_initial (nonce : Nonce) (repeats : Nat) :
    (Session.initial nonce repeats : Session Response).budget = repeats := by
  simp [Session.initial, Session.budget]

/-- A pass that runs spends a repeat on the call it makes, or fails and so
ends the loop. -/
def SpendsRepeats (body : Session Response → Round Response → Session Response) : Prop :=
  ∀ s r, 0 < s.repeats → s.failed = false → (body s r).budget ≤ s.budget

theorem spendsRepeats_of_outcome {body : Session Response → Round Response → Session Response}
    (hbody : ∀ s r, PassOutcome processResponse s r (body s r)) : SpendsRepeats body := by
  intro s r hpos hok
  rcases hbody s r with h | h | h | ⟨response, -, h | h⟩ <;> rw [h] <;>
    simp only [Session.budget, Session.process, List.length_append, List.length_singleton, hok] <;>
    simp only [Bool.false_eq_true, if_true, if_false] <;> omega

theorem budget_runLoop {body : Session Response → Round Response → Session Response} (hbody : SpendsRepeats body) :
    ∀ (rounds : List (Round Response)) (s : Session Response), (runLoop body s rounds).budget ≤ s.budget
  | [], _ => le_refl _
  | r :: rs, s => by
    unfold runLoop
    split
    · next h => exact (budget_runLoop hbody rs _).trans (hbody s r h.1 h.2)
    · exact budget_runLoop hbody rs s

theorem runLoop_exchanges_le {body : Session Response → Round Response → Session Response}
    (hbody : SpendsRepeats body) (nonce : Nonce) (repeats : Nat) (rounds : List (Round Response)) :
    (runLoop body (.initial nonce repeats) rounds).exchanges.length ≤ repeats :=
  calc _ ≤ (runLoop body (.initial nonce repeats) rounds).budget := Session.exchanges_length_le_budget _
    _ ≤ (Session.initial nonce repeats : Session Response).budget := budget_runLoop hbody rounds _
    _ = repeats := Session.budget_initial nonce repeats

/-- Whatever the rounds, a run of either driver calls `craggy_processResponse`
at most `repeats` times. -/
theorem runLoop_exchanges_le_repeats (nonce : Nonce) (repeats : Nat) (rounds : List (Round Response)) :
    (runLoop (craggyLoopBody processResponse) (.initial nonce repeats) rounds).exchanges.length ≤ repeats ∧
      (runLoop (roughtimeTesterLoopBody processResponse) (.initial nonce repeats) rounds).exchanges.length
        ≤ repeats :=
  ⟨runLoop_exchanges_le (spendsRepeats_of_outcome processResponse (craggyLoopBody_outcome processResponse))
      nonce repeats rounds,
    runLoop_exchanges_le (spendsRepeats_of_outcome processResponse (roughtimeTesterLoopBody_outcome processResponse))
      nonce repeats rounds⟩

/-- A round in which the command line's exchange for `nonce` goes through: the
request is created, a response arrives, the validator accepts it, and the
estimate is within ten minutes of the system clock. -/
def GoodRound (nonce : Nonce) (r : Round Response) : Prop :=
  r.requestCreated = true ∧ ∃ response reply, r.delivered = some response ∧
    processResponse nonce response = some reply ∧
    (toInt64 (reply.timestamp + (r.endUs - r.startUs) / 2 - r.endRealtimeUs)).natAbs ≤ kTenMinutes

theorem craggyLoopBody_good {s : Session Response} {r : Round Response}
    (h : GoodRound processResponse s.nonceBytes r) :
    ∃ response, craggyLoopBody processResponse s r
      = { s.process processResponse response with repeats := s.repeats - 1 } := by
  obtain ⟨hc, response, reply, hd, hp, hw⟩ := h
  refine ⟨response, ?_⟩
  simp only [craggyLoopBody, hc, if_true, hd, Session.process_nonceBytes, hp, if_neg (Nat.not_lt.mpr hw)]
  rfl

/-- The loop ran out of repeats, after `n` calls in all, without failing. -/
def Session.Completed (n : Nat) (s : Session Response) : Prop :=
  s.exchanges.length = n ∧ s.repeats = 0 ∧ s.failed = false

theorem runLoop_good_rounds {nonce : Nonce} :
    ∀ (rounds : List (Round Response)) (s : Session Response), s.nonceBytes = nonce → s.failed = false →
      s.repeats ≤ rounds.length → (∀ r ∈ rounds, GoodRound processResponse nonce r) →
      (runLoop (craggyLoopBody processResponse) s rounds).Completed (s.exchanges.length + s.repeats)
  | [], s, _, hf, hlen, _ => by
    have h0 : s.repeats = 0 := Nat.le_zero.mp hlen
    exact ⟨by rw [h0]; rfl, h0, hf⟩
  | r :: rs, s, hn, hf, hlen, hgood => by
    by_cases hpos : 0 < s.repeats
    · obtain ⟨response, hbody⟩ := craggyLoopBody_good processResponse (hn ▸ hgood r (List.mem_cons_self r rs))
      rw [runLoop, if_pos ⟨hpos, hf⟩, hbody]
      have hrest := runLoop_good_rounds rs { s.process processResponse response with repeats := s.repeats - 1 }
        hn hf (show s.repeats - 1 ≤ rs.length by simp only [List.length_cons] at hlen; omega)
        fun r' hr' => hgood r' (List.mem_cons_of_mem r hr')
      have hcount : (s.process processResponse response).exchanges.length + (s.repeats - 1)
          = s.exchanges.length + s.repeats := by
        simp only [Session.process_exchanges, List.length_append, List.length_singleton]; omega
      exact hcount ▸ hrest
    · rw [runLoop_of_stopped _ fun h => hpos h.1]
      exact ⟨by omega, by omega, hf⟩

/-- When every round goes through, the command line makes exactly `repeats`
exchanges and leaves its loop by running out of repeats, given as many rounds. -/
theorem craggyLoop_good_rounds_complete (nonce : Nonce) (repeats : Nat) (rounds : List (Round Response))
    (hlen : repeats ≤ rounds.length) (hgood : ∀ r ∈ rounds, GoodRound processResponse nonce r) :
    (runLoop (craggyLoopBody processResponse) (.initial nonce repeats) rounds).Completed repeats := by
  simpa [Session.initial] using
    @runLoop_good_rounds _ processResponse nonce rounds (.initial nonce repeats) rfl rfl hlen hgood

theorem craggyLoop_replayRounds_complete :
    (2 ≤ [replayRound, replayRound].length ∧
      ∀ r ∈ [replayRound, replayRound], GoodRound craggyProcessResponse sampleNonce r) ∧
      (runLoop (craggyLoopBody craggyProcessResponse) (.initial sampleNonce 2) [replayRound, replayRound]).Completed 2 := by
  have hg : GoodRound craggyProcessResponse sampleNonce replayRound :=
    ⟨rfl, sampleResponse, ⟨1625585148000000, 10000⟩, rfl, by decide, by decide⟩
  have hall : ∀ r ∈ [replayRound, replayRound], GoodRound craggyProcessResponse sampleNonce r := by
    simp only [List.mem_cons, List.mem_singleton, or_self, forall_eq, List.not_mem_nil, or_false]
    exact hg
  exact ⟨⟨by decide, hall⟩, craggyLoop_good_rounds_complete craggyProcessResponse sampleNonce 2 _ (by decide) hall⟩

end Count

/-! ## The ten-minute check -/

section TenMinutes

variable {Response : Type} (processResponse : Nonce → Response → Option Reply)

/-- The command line's estimate minus the system clock, in microseconds, on
the integers: the server's midpoint plus half the monotonic round trip, minus
the real-time clock after the reply. -/
def estimateOffset (reply : Reply) (r : Round Response) : Int :=
  ((reply.timestamp.toNat + (r.endUs.toNat - r.startUs.toNat) / 2 : Nat) : Int) - r.endRealtimeUs.toNat

/-- With the monotonic readings in order and the estimate and the real-time
clock below `2^63`, the `uint64_t` arithmetic and the conversion to `int64_t`
give the offset exactly. -/
theorem toInt64_offset_eq {reply : Reply} {r : Round Response} (hclock : r.startUs.toNat ≤ r.endUs.toNat)
    (hts : reply.timestamp.toNat + (r.endUs.toNat - r.startUs.toNat) / 2 < 2 ^ 63)
    (hrt : r.endRealtimeUs.toNat < 2 ^ 63) :
    toInt64 (reply.timestamp + (r.endUs - r.startUs) / 2 - r.endRealtimeUs) = estimateOffset reply r := by
  have he : r.endUs.toNat < 2 ^ 64 := r.endUs.toNat_lt_size
  have hsub : (r.endUs - r.startUs).toNat = r.endUs.toNat - r.startUs.toNat := by
    rw [uint64_toNat_sub]; omega
  have hsum : (reply.timestamp + (r.endUs - r.startUs) / 2).toNat
      = reply.timestamp.toNat + (r.endUs.toNat - r.startUs.toNat) / 2 := by
    rw [uint64_toNat_add, UInt64.toNat_div, hsub, show (2 : UInt64).toNat = 2 from rfl]
    exact Nat.mod_eq_of_lt (by show _ < 2 ^ 64; omega)
  unfold toInt64 estimateOffset
  rw [uint64_toNat_sub, hsum]
  split <;> omega

/-- On an accepted reply, with clock readings and estimate in range, the
command line fails exactly when its estimate is more than ten minutes off the
system clock on the integers: the `uint64_t` and `int64_t` arithmetic of the
check neither wraps nor rounds. -/
theorem craggyLoopBody_offset_check {s : Session Response} {r : Round Response} {response : Response}
    {reply : Reply} (hc : r.requestCreated = true) (hd : r.delivered = some response)
    (hp : processResponse s.nonceBytes response = some reply) (hclock : r.startUs.toNat ≤ r.endUs.toNat)
    (hts : reply.timestamp.toNat + (r.endUs.toNat - r.startUs.toNat) / 2 < 2 ^ 63)
    (hrt : r.endRealtimeUs.toNat < 2 ^ 63) :
    craggyLoopBody processResponse s r =
      if kTenMinutes < (estimateOffset reply r).natAbs then { s.process processResponse response with failed := true }
      else { s.process processResponse response with repeats := s.repeats - 1 } := by
  simp only [craggyLoopBody, hc, if_true, hd, Session.process_nonceBytes, hp, toInt64_offset_eq hclock hts hrt]
  rfl

theorem craggyLoopBody_replayRound_offset :
    replayRound.requestCreated = true ∧ replayRound.delivered = some sampleResponse ∧
      craggyProcessResponse (Session.initial sampleNonce 1 : Session SignedResponse).nonceBytes sampleResponse
        = some ⟨1625585148000000, 10000⟩ ∧
      replayRound.startUs.toNat ≤ replayRound.endUs.toNat ∧
      (⟨1625585148000000, 10000⟩ : Reply).timestamp.toNat
        + (replayRound.endUs.toNat - replayRound.startUs.toNat) / 2 < 2 ^ 63 ∧
      replayRound.endRealtimeUs.toNat < 2 ^ 63 ∧
      craggyLoopBody craggyProcessResponse (.initial sampleNonce 1) replayRound =
        if kTenMinutes < (estimateOffset ⟨1625585148000000, 10000⟩ replayRound).natAbs then
          { (Session.initial sampleNonce 1).process craggyProcessResponse sampleResponse with failed := true }
        else { (Session.initial sampleNonce 1).process craggyProcessResponse sampleResponse with
          repeats := (Session.initial sampleNonce 1 : Session SignedResponse).repeats - 1 } :=
  ⟨rfl, rfl, by decide, by decide, by decide, by decide,
    craggyLoopBody_offset_check craggyProcessResponse rfl rfl (by decide) (by decide) (by decide) (by decide)⟩

end TenMinutes

end Craggy.Client
