import Goddess.Proxy.Handler
import Mathlib.Data.List.Chain

/-!
# The attempt loop

What one iteration can do is said once, by `attempt_cases` and `handleReply_cases`; every
fact about whole runs of the loop is proved from them by induction on the number of indices
left. This module proves what the loop does with the transport chain: which indices call it,
under which gates, with which body and which `LastAttempt` flag, and what the loop leaves in
`err` and `resp` for the code after it.
-/

namespace Goddess.Proxy

/-- The call an event makes to the transport chain. -/
@[simp] def Event.call? : Event → Option Call
  | .roundTrip c => some c
  | _ => none

/-- The transport calls among `t`, in order. -/
def calls (t : List Event) : List Call := t.filterMap Event.call?

@[simp] theorem calls_nil : calls [] = [] := rfl

@[simp] theorem calls_cons (x : Event) (t : List Event) :
    calls (x :: t) = (x.call?).toList ++ calls t := by
  unfold calls
  rw [List.filterMap_cons]
  cases x.call? <;> rfl

@[simp] theorem calls_append (t t' : List Event) : calls (t ++ t') = calls t ++ calls t' :=
  List.filterMap_append _ _ _

@[simp] theorem calls_markFailed (i : Nat) (err : GoError) : calls (markFailed i err) = [] := by
  simp only [markFailed, markFailedStat]; split_ifs <;> rfl

@[simp] theorem calls_markSuccess (i : Nat) : calls (markSuccess i) = [] := by
  simp only [markSuccess, markSuccessStat, retryStat]; split_ifs <;> rfl

@[simp] theorem calls_markBreaker (i : Nat) : calls (markBreaker i) = [] := by
  simp only [markBreaker, markBreakerStat, retryStat]; split_ifs <;> rfl

/-- Index `i` is past the retry gate and the breaker (always so for the first index). -/
def Admitted (env : Env) (i : Nat) : Prop :=
  0 < i → env.retryEnabled i = true ∧ env.allow i = none

/-- Index `i` calls the transport chain: it is admitted and the overall context is not done. -/
def Passes (env : Env) (i : Nat) : Prop := Admitted env i ∧ env.ctxErr i = none

instance (env : Env) (i : Nat) : Decidable (Admitted env i) :=
  inferInstanceAs (Decidable (0 < i → _ ∧ _))

instance (env : Env) (i : Nat) : Decidable (Passes env i) :=
  inferInstanceAs (Decidable (_ ∧ _))

/-- The `Allow` call an admitted index makes. -/
def allowEvents (i : Nat) : List Event := if 0 < i then [.allow i none] else []

@[simp] theorem calls_allowEvents (i : Nat) : calls (allowEvents i) = [] := by
  simp only [allowEvents]; split_ifs <;> rfl

/-- A reply the loop goes on after: an error, or a retriable response with a body to close. -/
def Continues (cfg : Config) (r : Reply) : Prop :=
  r.err.isSome ∨ (r.err = none ∧ cfg.retryStrategy.retryRequired r.resp = true ∧
    (r.resp.bind Response.body).isSome)

/-- A reply that matches no retry condition: the loop breaks and relays it. -/
def Succeeds (cfg : Config) (r : Reply) : Prop :=
  r.err = none ∧ cfg.retryStrategy.retryRequired r.resp = false

section Cases

variable (cfg : Config) (env : Env) (body : List UInt8)

/-- Everything the code after a transport call can do (lines 235–247). -/
theorem handleReply_cases (i : Nat) (c : Call) (r : Reply) :
    (∃ err, r.err = some err ∧
      handleReply cfg i c r = ⟨.next, State.ofReply i r, .roundTrip c :: markFailed i err⟩) ∨
    (Succeeds cfg r ∧ handleReply cfg i c r =
      ⟨.stop, { State.ofReply i r with lastAttempt := true }, .roundTrip c :: markSuccess i⟩) ∨
    (Continues cfg r ∧ r.err = none ∧ handleReply cfg i c r =
      ⟨.next, { State.ofReply i r with bodyClosed := true },
        .roundTrip c :: (markFailed i assertionFailed ++ [.closeBody i])⟩) ∨
    (r.err = none ∧ handleReply cfg i c r =
      ⟨.panic, State.ofReply i r, .roundTrip c :: markFailed i assertionFailed⟩) := by
  unfold handleReply Succeeds Continues
  cases he : r.err with
  | some err => exact .inl ⟨err, rfl, rfl⟩
  | none =>
    cases hr : cfg.retryStrategy.retryRequired r.resp
    · exact .inr (.inl ⟨⟨rfl, rfl⟩, rfl⟩)
    · cases hb : r.resp.bind Response.body
      · exact .inr (.inr (.inr ⟨rfl, rfl⟩))
      · exact .inr (.inr (.inl ⟨.inr ⟨rfl, rfl, rfl⟩, rfl, rfl⟩))

/-- Everything one iteration of the attempt loop can do (lines 208–247). -/
theorem attempt_cases (i : Nat) (s : State) :
    (0 < i ∧ env.retryEnabled i = false ∧ attempt cfg env body i s = ⟨.stop, s, []⟩) ∨
    (0 < i ∧ env.retryEnabled i = true ∧ ∃ err, env.allow i = some err ∧
      attempt cfg env body i s = ⟨.stop, s, .allow i (some err) ::
        if err.is .notAllowed then markBreaker i else markFailed i err⟩) ∨
    (Admitted env i ∧ ∃ err, env.ctxErr i = some err ∧ attempt cfg env body i s =
      ⟨.stop, { s with err := some err, lastAttempt := (callAt cfg body i s).lastAttempt },
        allowEvents i ++ markFailed i err⟩) ∨
    (Passes env i ∧ attempt cfg env body i s =
      (handleReply cfg i (callAt cfg body i s) (env.roundTrip (callAt cfg body i s))).prepend
        (allowEvents i)) := by
  have htry : Admitted env i → attempt cfg env body i s =
      (tryAttempt cfg env body i s).prepend (allowEvents i) := by
    intro hadm
    unfold attempt allowEvents
    by_cases hi : 0 < i
    · obtain ⟨he, ha⟩ := hadm hi
      simp [hi, he, ha]
    · simp only [hi, if_false]
      rfl
  by_cases hadm : Admitted env i
  · rw [htry hadm]
    unfold tryAttempt
    cases hc : env.ctxErr i with
    | some err => exact .inr (.inr (.inl ⟨hadm, err, rfl, rfl⟩))
    | none => exact .inr (.inr (.inr ⟨⟨hadm, hc⟩, rfl⟩))
  · have hi : 0 < i := Classical.not_not.mp fun h => hadm fun hi => absurd hi h
    unfold attempt
    cases he : env.retryEnabled i
    · exact .inl ⟨hi, rfl, by simp [hi, he]⟩
    · cases ha : env.allow i with
      | none => exact absurd (fun _ => ⟨he, ha⟩) hadm
      | some err => exact .inr (.inl ⟨hi, rfl, err, rfl, by simp [hi, he, ha]⟩)

/-- Index `i` calls the transport chain exactly when it passes its gates. -/
theorem calls_attempt (i : Nat) (s : State) :
    calls (attempt cfg env body i s).events =
      if Passes env i then [callAt cfg body i s] else [] := by
  rcases attempt_cases cfg env body i s with ⟨hi, he, ha⟩ | ⟨hi, he, err, hal, ha⟩ |
    ⟨-, err, hc, ha⟩ | ⟨hp, ha⟩ <;> rw [ha]
  · simp [Passes, Admitted, hi, he]
  · have hnp : ¬ Passes env i := by simp [Passes, Admitted, hi, hal]
    rw [if_neg hnp]
    split_ifs <;> simp
  · simp [Passes, hc]
  · rcases handleReply_cases cfg i (callAt cfg body i s) (env.roundTrip (callAt cfg body i s))
      with ⟨err, -, h⟩ | ⟨-, h⟩ | ⟨-, -, h⟩ | ⟨-, h⟩ <;> simp [h, hp]

/-- An iteration the loop goes on after made its call and got an error or a retriable
response; the state it leaves holds that reply. -/
theorem attempt_next {i : Nat} {s : State} (h : (attempt cfg env body i s).flow = .next) :
    Passes env i ∧ Continues cfg (env.roundTrip (callAt cfg body i s)) ∧
      (attempt cfg env body i s).state.err = (env.roundTrip (callAt cfg body i s)).err ∧
      (attempt cfg env body i s).state.resp = (env.roundTrip (callAt cfg body i s)).resp ∧
      (attempt cfg env body i s).state.lastAttempt =
        (env.roundTrip (callAt cfg body i s)).lastAttempt := by
  rcases attempt_cases cfg env body i s with ⟨-, -, ha⟩ | ⟨-, -, err, -, ha⟩ |
    ⟨-, err, -, ha⟩ | ⟨hp, ha⟩ <;> rw [ha] at h ⊢
  · cases h
  · cases h
  · cases h
  · rcases handleReply_cases cfg i (callAt cfg body i s) (env.roundTrip (callAt cfg body i s))
      with ⟨err, he, h'⟩ | ⟨-, h'⟩ | ⟨hc, -, h'⟩ | ⟨-, h'⟩ <;> rw [h'] at h ⊢ <;> try cases h
    · exact ⟨hp, .inl (by simp [he]), rfl, rfl, rfl⟩
    · exact ⟨hp, hc, rfl, rfl, rfl⟩

/-- An iteration that leaves `err` nil and does not panic either stopped at the gate or the
breaker with the state untouched, or relays the response of its own call. -/
theorem attempt_err_none {i : Nat} {s : State} (hp : (attempt cfg env body i s).flow ≠ .panic)
    (he : (attempt cfg env body i s).state.err = none) :
    (0 < i ∧ (attempt cfg env body i s).flow = .stop ∧ calls (attempt cfg env body i s).events = [] ∧
      (attempt cfg env body i s).state = s) ∨
    (calls (attempt cfg env body i s).events = [callAt cfg body i s] ∧
      (env.roundTrip (callAt cfg body i s)).err = none ∧
      (attempt cfg env body i s).state.resp = (env.roundTrip (callAt cfg body i s)).resp) := by
  have hcalls := calls_attempt cfg env body i s
  rcases attempt_cases cfg env body i s with ⟨hi, -, ha⟩ | ⟨hi, -, err, -, ha⟩ |
    ⟨-, err, -, ha⟩ | ⟨hpass, ha⟩ <;> rw [ha] at hp he hcalls ⊢
  · exact .inl ⟨hi, rfl, rfl, rfl⟩
  · exact .inl ⟨hi, rfl, by split_ifs <;> simp, rfl⟩
  · cases he
  · rw [if_pos hpass] at hcalls
    rcases handleReply_cases cfg i (callAt cfg body i s) (env.roundTrip (callAt cfg body i s))
      with ⟨err, herr, h'⟩ | ⟨-, h'⟩ | ⟨-, -, h'⟩ | ⟨-, h'⟩ <;> rw [h'] at hp he hcalls ⊢
    · simp [State.ofReply, herr] at he
    · exact .inr ⟨hcalls, he, rfl⟩
    · exact .inr ⟨hcalls, he, rfl⟩
    · exact absurd rfl hp

/-- An iteration either makes no call and stops, keeping the state unless it sets `err`, or
makes its call and does what the reply says. -/
theorem attempt_calls_cases (i : Nat) (s : State) :
    (calls (attempt cfg env body i s).events = [] ∧ (attempt cfg env body i s).flow = .stop ∧
      ((attempt cfg env body i s).state.err = none → (attempt cfg env body i s).state = s)) ∨
    (calls (attempt cfg env body i s).events = [callAt cfg body i s] ∧
      attempt cfg env body i s = (handleReply cfg i (callAt cfg body i s)
        (env.roundTrip (callAt cfg body i s))).prepend (allowEvents i)) := by
  have hcalls := calls_attempt cfg env body i s
  rcases attempt_cases cfg env body i s with ⟨-, -, ha⟩ | ⟨-, -, err, hal, ha⟩ |
    ⟨hadm, err, hc, ha⟩ | ⟨hp, ha⟩
  · exact .inl ⟨by rw [ha]; rfl, by rw [ha], by rw [ha]; exact fun _ => rfl⟩
  · exact .inl ⟨by rw [ha]; split_ifs <;> simp, by rw [ha], by rw [ha]; exact fun _ => rfl⟩
  · refine .inl ⟨by rw [ha]; simp, by rw [ha], fun he => ?_⟩
    rw [ha] at he
    cases he
  · exact .inr ⟨by rw [hcalls, if_pos hp], ha⟩

/-- The error an iteration leaves: that of its call, or, when it makes none, the overall
context's at its index or the one it started with. -/
theorem attempt_err_some {i : Nat} {s : State} {err : GoError}
    (he : (attempt cfg env body i s).state.err = some err) :
    (calls (attempt cfg env body i s).events = [] ∧ (env.ctxErr i = some err ∨ s.err = some err)) ∨
    (calls (attempt cfg env body i s).events = [callAt cfg body i s] ∧
      (env.roundTrip (callAt cfg body i s)).err = some err) := by
  have hcalls := calls_attempt cfg env body i s
  rcases attempt_cases cfg env body i s with ⟨-, -, ha⟩ | ⟨-, -, e, -, ha⟩ |
    ⟨-, e, hc, ha⟩ | ⟨hp, ha⟩ <;> rw [ha] at he hcalls ⊢
  · exact .inl ⟨rfl, .inr he⟩
  · exact .inl ⟨by split_ifs <;> simp, .inr he⟩
  · exact .inl ⟨by simp, .inl (hc.trans he)⟩
  · rw [if_pos hp] at hcalls
    refine .inr ⟨hcalls, ?_⟩
    rcases handleReply_cases cfg i (callAt cfg body i s) (env.roundTrip (callAt cfg body i s))
      with ⟨_, -, h⟩ | ⟨-, h⟩ | ⟨-, -, h⟩ | ⟨-, h⟩ <;> rw [h] at he <;> exact he

end Cases

section Runs

variable (cfg : Config) (env : Env) (body : List UInt8)

/-- The calls of a run from index `i` are made at `i, i + 1, …`, at most one per index left. -/
theorem loop_calls_index (k i : Nat) (s : State) :
    (calls (loop cfg env body k i s).events).map Call.index =
      List.range' i (calls (loop cfg env body k i s).events).length ∧
    (calls (loop cfg env body k i s).events).length ≤ k := by
  induction k generalizing i s with
  | zero => simp
  | succ k ih =>
    rw [loop_succ]
    split_ifs with hn
    · obtain ⟨hp, -⟩ := attempt_next cfg env body hn
      obtain ⟨hmap, hlen⟩ := ih (i + 1) (attempt cfg env body i s).state
      simp only [Step.prepend_events, calls_append, calls_attempt, if_pos hp, List.singleton_append,
        List.map_cons, List.length_cons, hmap, List.range'_succ]
      exact ⟨rfl, by omega⟩
    · rw [calls_attempt]
      split_ifs <;> simp [callAt]

/-- Each call of a run follows a call that got an error or a retriable response, at an index
that passed its gates; the first call is at the index the run starts from. -/
theorem loop_calls_gated (k i : Nat) (s : State) :
    (∀ c ∈ (calls (loop cfg env body k i s).events).head?, c.index = i ∧ Passes env i) ∧
    (calls (loop cfg env body k i s).events).Chain'
      (fun c c' => Continues cfg (env.roundTrip c) ∧ Passes env c'.index) := by
  induction k generalizing i s with
  | zero => exact ⟨by simp, List.chain'_nil⟩
  | succ k ih =>
    rw [loop_succ]
    split_ifs with hn
    · obtain ⟨hp, hc, -⟩ := attempt_next cfg env body hn
      obtain ⟨hhead, hchain⟩ := ih (i + 1) (attempt cfg env body i s).state
      simp only [Step.prepend_events, calls_append, calls_attempt, if_pos hp,
        List.singleton_append, List.head?_cons, Option.mem_def, Option.some.injEq,
        forall_eq', List.chain'_cons']
      refine ⟨⟨rfl, hp⟩, fun c' hc' => ⟨hc, ?_⟩, hchain⟩
      obtain ⟨hidx, hp'⟩ := hhead c' hc'
      rwa [hidx]
    · rw [calls_attempt]
      split_ifs with hp <;> simp [callAt, hp]

/-- Every call of a run reads a fresh reader over the client's bytes. -/
theorem loop_calls_body (k i : Nat) (s : State) :
    ∀ c ∈ calls (loop cfg env body k i s).events, c.body = Reader.ofBytes body := by
  induction k generalizing i s with
  | zero => simp
  | succ k ih =>
    rw [loop_succ]
    split_ifs with hn
    · simp only [Step.prepend_events, calls_append, calls_attempt, List.mem_append]
      rintro c (hc | hc)
      · split_ifs at hc <;> simp_all [callAt]
      · exact ih _ _ c hc
    · rw [calls_attempt]
      split_ifs <;> simp [callAt]

/-- When the transport chain leaves `reqOpts.LastAttempt` alone, each call of a run sees it
set exactly when the run started with it set or the call's index is the last one. -/
theorem loop_calls_lastAttempt (hrt : ∀ c, (env.roundTrip c).lastAttempt = c.lastAttempt)
    (k i : Nat) (s : State) :
    ∀ c ∈ calls (loop cfg env body k i s).events,
      c.lastAttempt = (s.lastAttempt || decide (cfg.retryStrategy.attempts ≤ c.index + 1)) := by
  induction k generalizing i s with
  | zero => simp
  | succ k ih =>
    rw [loop_succ]
    split_ifs with hn
    · obtain ⟨hp, -, -, -, hla⟩ := attempt_next cfg env body hn
      have hidx := loop_calls_index cfg env body k (i + 1) (attempt cfg env body i s).state
      simp only [Step.prepend_events, calls_append, calls_attempt, if_pos hp,
        List.singleton_append, List.mem_cons]
      rintro c (rfl | hc)
      · rfl
      · have hge : i + 1 ≤ c.index := by
          have hm : c.index ∈ List.range' (i + 1) _ := hidx.1 ▸ List.mem_map_of_mem _ hc
          exact (List.mem_range'_1.mp hm).1
        have hmono : cfg.retryStrategy.attempts ≤ i + 1 →
            cfg.retryStrategy.attempts ≤ c.index + 1 := by omega
        rw [ih _ _ c hc, hla, hrt]
        by_cases h : cfg.retryStrategy.attempts ≤ i + 1 <;> simp [callAt, h, hmono]
    · rw [calls_attempt]
      split_ifs <;> simp [callAt]

/-- A run that leaves `err` nil and does not panic either made no call and stopped at the
gate or the breaker, or holds in `resp` the response of its last call. -/
theorem loop_err_none (k i : Nat) (s : State) (hp : (loop cfg env body k i s).flow ≠ .panic)
    (he : (loop cfg env body k i s).state.err = none) :
    ((0 < i ∨ k = 0) ∧ calls (loop cfg env body k i s).events = [] ∧
      (loop cfg env body k i s).state = s) ∨
    ∃ c, (calls (loop cfg env body k i s).events).getLast? = some c ∧
      (env.roundTrip c).err = none ∧ (loop cfg env body k i s).state.resp = (env.roundTrip c).resp := by
  induction k generalizing i s with
  | zero => exact .inl ⟨.inr rfl, rfl, rfl⟩
  | succ k ih =>
    rw [loop_succ] at hp he ⊢
    split_ifs at hp he ⊢ with hn
    · simp only [Step.prepend_flow, Step.prepend_state, Step.prepend_events, calls_append] at hp he ⊢
      rcases ih (i + 1) _ hp he with ⟨-, hnil, hst⟩ | ⟨c, hlast, hc⟩
      · rw [hst] at he
        rcases attempt_err_none cfg env body (by rw [hn]; decide) he with
          ⟨-, hstop, -⟩ | ⟨hcalls, herr, hresp⟩
        · rw [hn] at hstop; cases hstop
        · exact .inr ⟨callAt cfg body i s, by simp [hcalls, hnil], herr, by rw [hst, hresp]⟩
      · refine .inr ⟨c, ?_, hc⟩
        rw [List.getLast?_append, hlast]
        rfl
    · rcases attempt_err_none cfg env body hp he with ⟨hi, -, hcalls, hst⟩ | ⟨hcalls, herr, hresp⟩
      · exact .inl ⟨.inl hi, hcalls, hst⟩
      · exact .inr ⟨callAt cfg body i s, by simp [hcalls], herr, hresp⟩

/-- A run that makes no call and ends with `err` nil leaves the state as it was. -/
theorem loop_no_calls (k i : Nat) (s : State) (hc : calls (loop cfg env body k i s).events = [])
    (he : (loop cfg env body k i s).state.err = none) :
    (loop cfg env body k i s).state = s ∧ (loop cfg env body k i s).flow ≠ .panic := by
  cases k with
  | zero => exact ⟨rfl, by simp⟩
  | succ k =>
    rw [loop_succ] at hc he ⊢
    rcases attempt_calls_cases cfg env body i s with ⟨-, hstop, hst⟩ | ⟨hcalls, -⟩
    · rw [if_neg (by rw [hstop]; decide)] at hc he ⊢
      exact ⟨hst he, by rw [hstop]; decide⟩
    · split_ifs at hc <;> simp [hcalls] at hc

/-- The last call of a run decides how the run ends, when it ends with `err` nil: the final
state and flow are those its reply leaves, and the run's events contain the reply's. -/
theorem loop_last_call (k i : Nat) (s : State) {c : Call}
    (hlast : (calls (loop cfg env body k i s).events).getLast? = some c)
    (he : (loop cfg env body k i s).state.err = none) :
    (loop cfg env body k i s).state = (handleReply cfg c.index c (env.roundTrip c)).state ∧
    ((loop cfg env body k i s).flow = .panic →
      (handleReply cfg c.index c (env.roundTrip c)).flow = .panic) ∧
    ∃ pre post, (loop cfg env body k i s).events =
      pre ++ (handleReply cfg c.index c (env.roundTrip c)).events ++ post := by
  induction k generalizing i s with
  | zero => simp at hlast
  | succ k ih =>
    rw [loop_succ] at hlast he ⊢
    rcases attempt_calls_cases cfg env body i s with ⟨hnil, hstop, -⟩ | ⟨hcalls, ha⟩
    · rw [if_neg (by rw [hstop]; decide)] at hlast
      simp [hnil] at hlast
    · split_ifs at hlast he ⊢ with hn
      · simp only [Step.prepend_flow, Step.prepend_state, Step.prepend_events,
          calls_append] at hlast he ⊢
        by_cases hrest : calls (loop cfg env body k (i + 1) (attempt cfg env body i s).state).events = []
        · obtain ⟨hst, hnp⟩ := loop_no_calls cfg env body k _ _ hrest he
          rw [hcalls, hrest] at hlast
          cases hlast
          refine ⟨by rw [hst, ha]; simp, fun h => absurd h hnp, allowEvents i,
            (loop cfg env body k (i + 1) (attempt cfg env body i s).state).events, ?_⟩
          rw [ha]
          simp
        · rw [List.getLast?_append_of_ne_nil _ hrest] at hlast
          obtain ⟨hst, hfl, pre, post, hev⟩ := ih (i + 1) _ hlast he
          exact ⟨hst, hfl, (attempt cfg env body i s).events ++ pre, post, by simp [hev]⟩
      · rw [hcalls] at hlast
        cases hlast
        rw [ha]
        exact ⟨by simp, by simp, allowEvents i, [], by simp⟩

/-- A run that panics leaves `err` nil: the panicking call returned no error. -/
theorem loop_panic_err (k i : Nat) (s : State) (h : (loop cfg env body k i s).flow = .panic) :
    (loop cfg env body k i s).state.err = none := by
  induction k generalizing i s with
  | zero => cases h
  | succ k ih =>
    rw [loop_succ] at h ⊢
    split_ifs at h ⊢
    · exact ih _ _ h
    · rcases attempt_cases cfg env body i s with ⟨-, -, ha⟩ | ⟨-, -, err, -, ha⟩ |
        ⟨-, err, -, ha⟩ | ⟨-, ha⟩ <;> rw [ha] at h ⊢ <;> try cases h
      rcases handleReply_cases cfg i (callAt cfg body i s) (env.roundTrip (callAt cfg body i s))
        with ⟨err, -, h'⟩ | ⟨-, h'⟩ | ⟨-, -, h'⟩ | ⟨he, h'⟩ <;> rw [h'] at h ⊢ <;> try cases h
      exact he

/-- A run whose last call's reply leaves the loop ends as that reply leaves it. -/
theorem loop_last_call_of_ne_next (k i : Nat) (s : State) {c : Call}
    (hlast : (calls (loop cfg env body k i s).events).getLast? = some c)
    (hstop : (handleReply cfg c.index c (env.roundTrip c)).flow ≠ .next) :
    (loop cfg env body k i s).state = (handleReply cfg c.index c (env.roundTrip c)).state ∧
      (loop cfg env body k i s).flow = (handleReply cfg c.index c (env.roundTrip c)).flow := by
  induction k generalizing i s with
  | zero => simp at hlast
  | succ k ih =>
    rw [loop_succ] at hlast ⊢
    rcases attempt_calls_cases cfg env body i s with ⟨hnil, hflow, -⟩ | ⟨hcalls, ha⟩
    · rw [if_neg (by rw [hflow]; decide)] at hlast
      simp [hnil] at hlast
    · split_ifs at hlast ⊢ with hn
      · simp only [Step.prepend_flow, Step.prepend_state, Step.prepend_events,
          calls_append] at hlast ⊢
        by_cases hrest : calls (loop cfg env body k (i + 1) (attempt cfg env body i s).state).events = []
        · rw [hcalls, hrest] at hlast
          cases hlast
          rw [ha] at hn
          exact absurd hn hstop
        · rw [List.getLast?_append_of_ne_nil _ hrest] at hlast
          exact ih (i + 1) _ hlast
      · rw [hcalls] at hlast
        cases hlast
        rw [ha]
        exact ⟨rfl, rfl⟩

/-- The error a run leaves is that of its last call, that of the overall context at the index
after its calls, or, when it made no call, the one it started with. -/
theorem loop_err_some (k i : Nat) (s : State) {err : GoError}
    (he : (loop cfg env body k i s).state.err = some err) :
    (∃ c, (calls (loop cfg env body k i s).events).getLast? = some c ∧
      (env.roundTrip c).err = some err) ∨
    env.ctxErr (i + (calls (loop cfg env body k i s).events).length) = some err ∨
    (calls (loop cfg env body k i s).events = [] ∧ s.err = some err) := by
  induction k generalizing i s with
  | zero => exact .inr (.inr ⟨rfl, he⟩)
  | succ k ih =>
    rw [loop_succ] at he ⊢
    split_ifs at he ⊢ with hn
    · have hcall : calls (attempt cfg env body i s).events = [callAt cfg body i s] := by
        rw [calls_attempt, if_pos (attempt_next cfg env body hn).1]
      simp only [Step.prepend_state, Step.prepend_events, calls_append, hcall] at he ⊢
      rcases ih (i + 1) _ he with ⟨c, hlast, hc⟩ | hctx | ⟨hnil, hs⟩
      · exact .inl ⟨c, by rw [List.getLast?_append, hlast]; rfl, hc⟩
      · refine .inr (.inl ?_)
        simpa [Nat.add_assoc, Nat.add_comm 1] using hctx
      · rcases attempt_err_some cfg env body hs with ⟨h, -⟩ | ⟨-, hc⟩
        · rw [hcall] at h; cases h
        · exact .inl ⟨_, by simp [hnil], hc⟩
    · rcases attempt_err_some cfg env body he with ⟨hnil, hc | hs⟩ | ⟨hcall, hc⟩
      · exact .inr (.inl (by simpa [hnil] using hc))
      · exact .inr (.inr ⟨hnil, hs⟩)
      · exact .inl ⟨_, by simp [hcall], hc⟩

end Runs

/-- The loop index a call to the metric, the breaker or the transport chain was made at. -/
def Event.index? : Event → Option Nat
  | .handleRetry i _ | .allow i _ | .markSuccess i | .markFailed i _ => some i
  | .roundTrip c => some c.index
  | _ => none

/-- The events of `t` made at loop index `i`. -/
def atIndex (i : Nat) (t : List Event) : List Event := t.filter fun x => x.index? = some i

section Index

variable (cfg : Config) (env : Env) (body : List UInt8)

/-- The calls of `es` that carry an index are made at loop index `i`. -/
def Tagged (i : Nat) (es : List Event) : Prop := ∀ x ∈ es, ∀ j, x.index? = some j → j = i

@[simp] theorem tagged_nil (i : Nat) : Tagged i [] := by simp [Tagged]

@[simp] theorem tagged_cons (i : Nat) (x : Event) (es : List Event) :
    Tagged i (x :: es) ↔ (∀ j, x.index? = some j → j = i) ∧ Tagged i es := List.forall_mem_cons

@[simp] theorem tagged_append (i : Nat) (es es' : List Event) :
    Tagged i (es ++ es') ↔ Tagged i es ∧ Tagged i es' := List.forall_mem_append

@[simp] theorem tagged_markFailed (i : Nat) (err : GoError) : Tagged i (markFailed i err) := by
  unfold markFailed markFailedStat; split_ifs <;> simp [Event.index?]

@[simp] theorem tagged_markSuccess (i : Nat) : Tagged i (markSuccess i) := by
  unfold markSuccess markSuccessStat retryStat; split_ifs <;> simp [Event.index?]

@[simp] theorem tagged_markBreaker (i : Nat) : Tagged i (markBreaker i) := by
  unfold markBreaker markBreakerStat retryStat; split_ifs <;> simp [Event.index?]

@[simp] theorem tagged_allowEvents (i : Nat) : Tagged i (allowEvents i) := by
  unfold allowEvents; split_ifs <;> simp [Event.index?]

/-- Every call of an iteration is made at its index. -/
theorem index_attempt (i : Nat) (s : State) : Tagged i (attempt cfg env body i s).events := by
  rcases attempt_cases cfg env body i s with ⟨-, -, ha⟩ | ⟨-, -, err, -, ha⟩ |
    ⟨-, err, -, ha⟩ | ⟨-, ha⟩ <;> rw [ha]
  · simp
  · split_ifs <;> simp [Event.index?]
  · simp
  · rcases handleReply_cases cfg i (callAt cfg body i s) (env.roundTrip (callAt cfg body i s))
      with ⟨err, -, h⟩ | ⟨-, h⟩ | ⟨-, -, h⟩ | ⟨-, h⟩ <;> rw [h] <;> simp [Event.index?, callAt]

/-- The indices a run from index `i` with `k` left runs an iteration for. -/
def reached : Nat → Nat → State → List Nat
  | 0, _, _ => []
  | k + 1, i, s =>
    i :: if (attempt cfg env body i s).flow = .next then
      reached k (i + 1) (attempt cfg env body i s).state else []

/-- The calls of a run from index `j` are made at `j` or later. -/
theorem index_loop (k j : Nat) (s : State) :
    ∀ x ∈ (loop cfg env body k j s).events, ∀ i, x.index? = some i → j ≤ i := by
  induction k generalizing j s with
  | zero => simp
  | succ k ih =>
    rw [loop_succ]
    have hat := index_attempt cfg env body j s
    split_ifs
    · simp only [Step.prepend_events, List.mem_append]
      rintro x (hx | hx) i hi
      · exact (hat x hx i hi).ge
      · have := ih (j + 1) _ x hx i hi; omega
    · exact fun x hx i hi => (hat x hx i hi).ge

/-- The calls a run makes at index `i` are those of one iteration, if the run reaches `i`. -/
theorem atIndex_loop (k j : Nat) (s : State) (i : Nat) :
    (i ∈ reached cfg env body k j s →
      ∃ s', atIndex i (loop cfg env body k j s).events =
        atIndex i (attempt cfg env body i s').events) ∧
    (i ∉ reached cfg env body k j s → atIndex i (loop cfg env body k j s).events = []) := by
  induction k generalizing j s with
  | zero => simp [reached, atIndex]
  | succ k ih =>
    have hother : i ≠ j → atIndex i (attempt cfg env body j s).events = [] :=
      fun hij => List.filter_eq_nil_iff.mpr fun x hx h =>
        hij (index_attempt cfg env body j s x hx i (of_decide_eq_true h))
    have hrest : ∀ s', atIndex j (loop cfg env body k (j + 1) s').events = [] :=
      fun s' => List.filter_eq_nil_iff.mpr fun x hx h => by
        have := index_loop cfg env body k (j + 1) s' x hx j (of_decide_eq_true h)
        omega
    rw [loop_succ]
    simp only [reached, List.mem_cons]
    split_ifs with hn
    · simp only [Step.prepend_events, atIndex, List.filter_append] at ih hother hrest ⊢
      by_cases hij : i = j
      · subst hij
        refine ⟨fun _ => ⟨s, by rw [hrest, List.append_nil]⟩, fun h => absurd (.inl rfl) h⟩
      · rw [hother hij, List.nil_append]
        simp only [hij, false_or]
        exact ih (j + 1) _
    · by_cases hij : i = j
      · subst hij
        exact ⟨fun _ => ⟨s, rfl⟩, fun h => absurd (.inl rfl) h⟩
      · simp only [hij, false_or, List.not_mem_nil, false_implies, not_false_eq_true,
          forall_const, true_and]
        exact hother hij

/-- A run that makes a call at index `i` reached `i`: its calls there are one iteration's. -/
theorem atIndex_loop_of_mem (k j : Nat) (s : State) {i : Nat} {e : Event}
    (he : e ∈ (loop cfg env body k j s).events) (hi : e.index? = some i) :
    ∃ s', atIndex i (loop cfg env body k j s).events =
      atIndex i (attempt cfg env body i s').events := by
  by_cases h : i ∈ reached cfg env body k j s
  · exact (atIndex_loop cfg env body k j s i).1 h
  · have he' : e ∈ atIndex i (loop cfg env body k j s).events := by simp [atIndex, he, hi]
    rw [(atIndex_loop cfg env body k j s i).2 h] at he'
    cases he'

/-- A call that only a stopping iteration makes ends the run: the run is that iteration,
after the calls of earlier indices. -/
theorem loop_ends_at (k j : Nat) (s : State) {i : Nat} {e : Event} (hi : e.index? = some i)
    (hstop : ∀ s', e ∈ (attempt cfg env body i s').events →
      (attempt cfg env body i s').flow ≠ .next)
    (he : e ∈ (loop cfg env body k j s).events) :
    ∃ s' pre, loop cfg env body k j s = (attempt cfg env body i s').prepend pre ∧
      e ∈ (attempt cfg env body i s').events ∧
      ∀ x ∈ pre, ∀ i', x.index? = some i' → i' < i := by
  induction k generalizing j s with
  | zero => simp at he
  | succ k ih =>
    have hat := index_attempt cfg env body j s
    rw [loop_succ] at he ⊢
    split_ifs at he ⊢ with hn
    · rw [Step.prepend_events, List.mem_append] at he
      rcases he with he | he
      · obtain rfl := hat e he i hi
        exact absurd hn (hstop s he)
      · obtain ⟨s', pre, hloop, he', hpre⟩ := ih (j + 1) _ he
        have hji : j < i := by
          have := index_loop cfg env body k (j + 1) _ e he i hi
          omega
        refine ⟨s', (attempt cfg env body j s).events ++ pre,
          by rw [hloop, Step.prepend_prepend], he', ?_⟩
        simp only [List.mem_append]
        rintro x (hx | hx) i' hi'
        · exact hat x hx i' hi' ▸ hji
        · exact hpre x hx i' hi'
    · obtain rfl := hat e he i hi
      exact ⟨s, [], rfl, he, by simp⟩

end Index

/-- No event of `es` belongs to a loop index. -/
def Untagged (es : List Event) : Prop := ∀ x ∈ es, x.index? = none

theorem atIndex_of_untagged {es : List Event} (h : Untagged es) (i : Nat) : atIndex i es = [] :=
  List.filter_eq_nil_iff.mpr fun x hx => by simp [h x hx]

theorem calls_of_untagged {es : List Event} (h : Untagged es) : calls es = [] :=
  List.filterMap_eq_nil_iff.2 fun x hx => by
    have := h x hx
    cases x <;> simp_all [Event.index?]

theorem untagged_writeError (cfg : Config) (err : GoError) : Untagged (writeError cfg err) := by
  unfold writeError
  split_ifs <;> simp only [Untagged, List.forall_mem_cons] <;> repeat' apply And.intro
  all_goals first | rfl | exact fun _ h => nomatch h

theorem untagged_relay (w : Option (Nat × GoError)) (j : Nat) (resp : Response) (closed : Bool) :
    Untagged (relay w j resp closed) := by
  intro x hx
  simp only [relay, List.mem_append, List.mem_map] at hx
  rcases hx with ⟨_, -, rfl⟩ | hx
  · rfl
  split_ifs at hx
  · simp only [List.mem_cons, List.mem_append, List.not_mem_nil, or_false] at hx
    rcases hx with rfl | hx | rfl
    · rfl
    · rcases mem_doCopyBody hx with rfl | rfl | ⟨_, rfl⟩ | ⟨_, rfl⟩ | ⟨_, rfl⟩ | ⟨_, _, rfl⟩ <;>
        rfl
    · rfl
  · rw [List.mem_singleton.1 hx]
    rfl

theorem untagged_terminal (cfg : Config) (env : Env) (s : State) :
    Untagged (terminal cfg env s) := by
  unfold terminal
  split
  · exact untagged_writeError cfg _
  · split
    · simp [Untagged, Event.index?]
    · exact untagged_relay _ _ _ _

@[simp] theorem calls_writeError (cfg : Config) (err : GoError) : calls (writeError cfg err) = [] :=
  calls_of_untagged (untagged_writeError cfg err)

@[simp] theorem calls_relay (w : Option (Nat × GoError)) (i : Nat) (resp : Response)
    (closed : Bool) : calls (relay w i resp closed) = [] :=
  calls_of_untagged (untagged_relay w i resp closed)

@[simp] theorem calls_terminal (cfg : Config) (env : Env) (s : State) :
    calls (terminal cfg env s) = [] :=
  calls_of_untagged (untagged_terminal cfg env s)

theorem calls_serveBuffered {cfg : Config} {env : Env} {body : List UInt8}
    (hbody : env.readAll = .ok body) :
    calls (serveBuffered cfg env) = calls (attemptLoop cfg env body).events := by
  rw [serveBuffered_of_body hbody]
  split <;> simp

/-- The calls to the transport chain one request makes: at indices `0, 1, …, k - 1` with
`k` at most the attempts; each one after the first follows an error or a retriable response,
with the retry feature on, `Allow` nil and the overall context live at its index, and never a
response that matches no retry condition; each reads the client's bytes; and `LastAttempt` is
set exactly at the last index. -/
structure AttemptCalls (cfg : Config) (env : Env) (body : List UInt8) (cs : List Call) : Prop where
  consecutive : cs.map Call.index = List.range cs.length
  bounded : cs.length ≤ cfg.retryStrategy.attempts
  gated : cs.Chain' fun c c' => Continues cfg (env.roundTrip c) ∧ Passes env c'.index
  afterSuccess : cs.Chain' fun c _ => ¬ Succeeds cfg (env.roundTrip c)
  replayed : ∀ c ∈ cs, c.body.rest = body
  lastAttempt : ∀ c ∈ cs, c.lastAttempt = true ↔ c.index = cfg.retryStrategy.attempts - 1

theorem not_succeeds_of_continues {cfg : Config} {r : Reply} (h : Continues cfg r) :
    ¬ Succeeds cfg r := by
  rintro ⟨he, hr⟩
  rcases h with h | ⟨-, h, -⟩
  · simp [he] at h
  · simp [hr] at h

/-- The buffered handler calls the transport chain at consecutive indices from 0, each call
after the first only past an error or a retriable response and open gates, each with the
client's bytes, and with `LastAttempt` set exactly at the last index. -/
theorem serveBuffered_calls (cfg : Config) (env : Env) (body : List UInt8)
    (hbody : env.readAll = .ok body) (hla : env.lastAttempt = false)
    (hrt : ∀ c, (env.roundTrip c).lastAttempt = c.lastAttempt) :
    AttemptCalls cfg env body (calls (serveBuffered cfg env)) := by
  rw [calls_serveBuffered hbody, attemptLoop]
  obtain ⟨hidx, hlen⟩ := loop_calls_index cfg env body cfg.retryStrategy.attempts 0
    (State.init env body)
  have hgated := (loop_calls_gated cfg env body cfg.retryStrategy.attempts 0 (State.init env body)).2
  refine ⟨by rw [hidx, List.range_eq_range'], hlen, hgated,
    hgated.imp fun c _ h => not_succeeds_of_continues h.1, fun c hc => ?_, fun c hc => ?_⟩
  · rw [loop_calls_body cfg env body _ 0 _ c hc]
    rfl
  · have hlt : c.index < cfg.retryStrategy.attempts := by
      have hm : c.index ∈ List.range' 0 _ := hidx ▸ List.mem_map_of_mem _ hc
      have := (List.mem_range'_1.mp hm).2
      omega
    rw [loop_calls_lastAttempt cfg env body hrt _ 0 _ c hc]
    simp only [State.init, hla, Bool.false_or, decide_eq_true_eq]
    omega

/-- `TestProxy`'s retry: two calls, the second after the 500, both with the client's bytes. -/
theorem serveBuffered_calls_retryToSuccess :
    (retryToSuccess [7]).readAll = .ok [7] ∧ (retryToSuccess [7]).lastAttempt = false ∧
      (∀ c, ((retryToSuccess [7]).roundTrip c).lastAttempt = c.lastAttempt) ∧
      AttemptCalls retryableConfig (retryToSuccess [7]) [7]
        (calls (serveBuffered retryableConfig (retryToSuccess [7]))) :=
  ⟨rfl, rfl, fun _ => rfl, serveBuffered_calls _ _ _ rfl rfl fun _ => rfl⟩

/-- The calls of a handled request made at an index are those of its attempt loop. -/
theorem atIndex_serveBuffered {cfg : Config} {env : Env} {body : List UInt8}
    (hbody : env.readAll = .ok body) (i : Nat) :
    atIndex i (serveBuffered cfg env) = atIndex i (attemptLoop cfg env body).events := by
  have hT := atIndex_of_untagged (untagged_terminal cfg env (attemptLoop cfg env body).state) i
  rw [serveBuffered_of_body hbody]
  unfold atIndex at hT ⊢
  split
  · simp [Event.index?]
  · rw [List.filter_append, List.filter_append, hT]
    simp [Event.index?]

/-- A call of a handled request that carries an index is a call of its attempt loop. -/
theorem mem_attemptLoop_of_index {cfg : Config} {env : Env} {body : List UInt8}
    (hbody : env.readAll = .ok body) {e : Event} {i : Nat} (he : e ∈ serveBuffered cfg env)
    (hi : e.index? = some i) : e ∈ (attemptLoop cfg env body).events := by
  have he' : e ∈ atIndex i (serveBuffered cfg env) := by simp [atIndex, he, hi]
  rw [atIndex_serveBuffered hbody] at he'
  exact List.mem_of_mem_filter he'

/-- A reply makes the loop panic exactly when it has no error and a retriable response with a
nil body, whose `Close` (line 246) dereferences it. -/
theorem handleReply_flow_panic_iff (cfg : Config) (i : Nat) (c : Call) (r : Reply) :
    (handleReply cfg i c r).flow = .panic ↔
      r.err = none ∧ cfg.retryStrategy.retryRequired r.resp = true ∧ r.resp.bind Response.body = none := by
  unfold handleReply
  cases r.err <;> cases cfg.retryStrategy.retryRequired r.resp <;>
    cases r.resp.bind Response.body <;> simp

/-- **The branch the handler takes after the loop.** When every call returns an error or a
response, the loop panics exactly when the last call's reply is a retriable response with a
nil body, and the handler then takes neither branch. Otherwise, with `err` set, `err` is the
error of the last call or that of the overall context at the index after it, and the handler
calls `writeError` with it and nothing else; with `err` nil, `resp` is the non-nil response of
the last call, and the handler relays it. -/
theorem serveBuffered_terminal (cfg : Config) (env : Env) (body : List UInt8)
    (hbody : env.readAll = .ok body) (hn : 0 < cfg.retryStrategy.attempts)
    (hrt : ∀ c, (env.roundTrip c).err = none → (env.roundTrip c).resp ≠ none) :
    ((attemptLoop cfg env body).flow = .panic ↔
      ∃ c r, (calls (attemptLoop cfg env body).events).getLast? = some c ∧
        (env.roundTrip c).err = none ∧ (env.roundTrip c).resp = some r ∧
        cfg.retryStrategy.retryRequired (some r) = true ∧ r.body = none) ∧
    ((attemptLoop cfg env body).flow = .panic →
      serveBuffered cfg env = .handleReceivedBytes body.length ::
        (attemptLoop cfg env body).events ++ [.panic, .handleLatency]) ∧
    (∀ err, (attemptLoop cfg env body).state.err = some err →
      ((∃ c, (calls (attemptLoop cfg env body).events).getLast? = some c ∧
          (env.roundTrip c).err = some err) ∨
        env.ctxErr (calls (attemptLoop cfg env body).events).length = some err) ∧
      serveBuffered cfg env = .handleReceivedBytes body.length ::
        (attemptLoop cfg env body).events ++ writeError cfg err ++ [.handleLatency]) ∧
    ((attemptLoop cfg env body).flow ≠ .panic → (attemptLoop cfg env body).state.err = none →
      ∃ c resp, (calls (attemptLoop cfg env body).events).getLast? = some c ∧
        (env.roundTrip c).resp = some resp ∧ (attemptLoop cfg env body).state.resp = some resp ∧
        serveBuffered cfg env = .handleReceivedBytes body.length ::
          (attemptLoop cfg env body).events ++
            relay env.clientWrite (attemptLoop cfg env body).state.last resp
              (attemptLoop cfg env body).state.bodyClosed ++ [.handleLatency]) := by
  have hserve : (attemptLoop cfg env body).flow ≠ .panic → serveBuffered cfg env =
      .handleReceivedBytes body.length :: (attemptLoop cfg env body).events ++
        terminal cfg env (attemptLoop cfg env body).state ++ [.handleLatency] := by
    intro hp
    rw [serveBuffered_of_body hbody]
    split
    · contradiction
    · rfl
  have hpanic : (attemptLoop cfg env body).flow = .panic ↔
      ∃ c r, (calls (attemptLoop cfg env body).events).getLast? = some c ∧
        (env.roundTrip c).err = none ∧ (env.roundTrip c).resp = some r ∧
        cfg.retryStrategy.retryRequired (some r) = true ∧ r.body = none := by
    unfold attemptLoop
    constructor
    · intro hp
      have he := loop_panic_err cfg env body _ _ _ hp
      cases hc : (calls (loop cfg env body cfg.retryStrategy.attempts 0
          (State.init env body)).events).getLast? with
      | none => exact absurd hp (loop_no_calls cfg env body _ _ _ (List.getLast?_eq_none_iff.1 hc) he).2
      | some c =>
        obtain ⟨herr, hreq, hnil⟩ :=
          (handleReply_flow_panic_iff cfg _ c _).1 ((loop_last_call cfg env body _ _ _ hc he).2.1 hp)
        obtain ⟨r, hr⟩ := Option.ne_none_iff_exists'.mp (hrt c herr)
        exact ⟨c, r, rfl, herr, hr, hr ▸ hreq, by simpa [hr] using hnil⟩
    · rintro ⟨c, r, hc, herr, hr, hreq, hnil⟩
      have hfl := (handleReply_flow_panic_iff cfg c.index c _).2 ⟨herr, hr ▸ hreq, by simp [hr, hnil]⟩
      rw [(loop_last_call_of_ne_next cfg env body _ _ _ hc (by rw [hfl]; decide)).2, hfl]
  refine ⟨hpanic, fun hp => ?_, fun err he => ⟨?_, ?_⟩, fun hp he => ?_⟩
  · rw [serveBuffered_of_body hbody, hp]
    simp
  · rcases loop_err_some cfg env body _ 0 _ he with hlast | hctx | ⟨-, hs⟩
    · exact .inl hlast
    · exact .inr (by simpa using hctx)
    · cases hs
  · have hp : (attemptLoop cfg env body).flow ≠ .panic := fun hp =>
      absurd ((loop_panic_err cfg env body _ _ _ hp).symm.trans he) nofun
    rw [hserve hp, terminal, he]
  · rcases loop_err_none cfg env body _ 0 _ hp he with ⟨hi, -⟩ | ⟨c, hlast, herr, hresp⟩
    · omega
    · obtain ⟨resp, hr⟩ := Option.ne_none_iff_exists'.mp (hrt c herr)
      have hresp' : (attemptLoop cfg env body).state.resp = some resp := hresp.trans hr
      refine ⟨c, resp, hlast, hr, hresp', ?_⟩
      rw [hserve hp, terminal, he, hresp']

/-- An upstream whose every reply is a `503`, which `retryableConfig` retries, with a nil body,
as a middleware's own response may have. -/
def unavailableNoBody : Env where
  readAll := .ok [7]
  lastAttempt := false
  retryEnabled := fun _ => true
  allow := fun _ => none
  ctxErr := fun _ => none
  roundTrip := fun c => ⟨some ⟨503, [], none, []⟩, none, c.body, c.lastAttempt⟩
  clientWrite := none
  allow_notAllowed := nofun

/-- The first call already gets the bodiless `503`: the loop panics at its `Close`, and the
handler reaches neither `writeError` nor the relay. -/
theorem serveBuffered_terminal_unavailableNoBody :
    unavailableNoBody.readAll = .ok [7] ∧ 0 < retryableConfig.retryStrategy.attempts ∧
      (∀ c, (unavailableNoBody.roundTrip c).err = none → (unavailableNoBody.roundTrip c).resp ≠ none) ∧
      (attemptLoop retryableConfig unavailableNoBody [7]).flow = .panic ∧
    (((attemptLoop retryableConfig unavailableNoBody [7]).flow = .panic ↔
      ∃ c r, (calls (attemptLoop retryableConfig unavailableNoBody [7]).events).getLast? = some c ∧
        (unavailableNoBody.roundTrip c).err = none ∧ (unavailableNoBody.roundTrip c).resp = some r ∧
        retryableConfig.retryStrategy.retryRequired (some r) = true ∧ r.body = none) ∧
    ((attemptLoop retryableConfig unavailableNoBody [7]).flow = .panic →
      serveBuffered retryableConfig unavailableNoBody = .handleReceivedBytes [7].length ::
        (attemptLoop retryableConfig unavailableNoBody [7]).events ++ [.panic, .handleLatency]) ∧
    (∀ err, (attemptLoop retryableConfig unavailableNoBody [7]).state.err = some err →
      ((∃ c, (calls (attemptLoop retryableConfig unavailableNoBody [7]).events).getLast? = some c ∧
          (unavailableNoBody.roundTrip c).err = some err) ∨
        unavailableNoBody.ctxErr
          (calls (attemptLoop retryableConfig unavailableNoBody [7]).events).length = some err) ∧
      serveBuffered retryableConfig unavailableNoBody = .handleReceivedBytes [7].length ::
        (attemptLoop retryableConfig unavailableNoBody [7]).events ++
          writeError retryableConfig err ++ [.handleLatency]) ∧
    ((attemptLoop retryableConfig unavailableNoBody [7]).flow ≠ .panic →
      (attemptLoop retryableConfig unavailableNoBody [7]).state.err = none →
      ∃ c resp, (calls (attemptLoop retryableConfig unavailableNoBody [7]).events).getLast? =
          some c ∧ (unavailableNoBody.roundTrip c).resp = some resp ∧
        (attemptLoop retryableConfig unavailableNoBody [7]).state.resp = some resp ∧
        serveBuffered retryableConfig unavailableNoBody = .handleReceivedBytes [7].length ::
          (attemptLoop retryableConfig unavailableNoBody [7]).events ++
            relay unavailableNoBody.clientWrite
              (attemptLoop retryableConfig unavailableNoBody [7]).state.last resp
              (attemptLoop retryableConfig unavailableNoBody [7]).state.bodyClosed ++
                [.handleLatency])) :=
  ⟨rfl, by decide, fun _ _ => nofun, by decide,
    serveBuffered_terminal retryableConfig unavailableNoBody [7] rfl (by decide) fun _ _ => nofun⟩

end Goddess.Proxy
