import Goddess.Basic
import Goddess.Control.Service

/-!
# Callers of the control service racing on `s.mu`

`s.mu` is Go's `sync.RWMutex`. `RLock` waits while a writer has announced itself. `Lock` first
takes the writers' mutex and announces itself, so that new readers wait. It then waits until the
read locks taken before have been released. `Unlock` and `RUnlock` never wait.

A caller is a method call at one of its calls on the mutex (`Phase`). A step runs one caller's
mutex call, when the mutex lets it return, together with the code up to that caller's next mutex
call. An interleaving is the list of the callers scheduled in turn. A caller that is blocked or
has returned does not move.

`System.Sound` is the bookkeeping of the mutex, and every interleaving keeps it (`sound_run`).
A `ReadMethod` call asks for the write lock while it holds the read lock it took on entry, and
the mutex then waits for that read lock too. So a call that loads a file never returns
(`ReadMethod.run_waits`), and run first it leaves every caller waiting
(`ReadMethod.deadlocked_of_first`). Calls whose code under the read lock returns, a cached
gateway for one, never wait: whatever has run, scheduling each caller twice more returns them
all (`run_returns_of_reads`).
-/

namespace Goddess.Control

/-- What a `sync.RWMutex` waits on: how many read locks are held, and whether a `Lock` call holds
the writers' mutex (announced and waiting for the readers, or holding the lock). -/
structure RWMutex where
  readers : Nat
  writer : Bool
  deriving DecidableEq, Repr

/-- The zero `sync.RWMutex`. -/
def RWMutex.unlocked : RWMutex := ⟨0, false⟩

/-- Where a call stands: at `s.mu.RLock()` on entry; at `s.mu.Lock()` in `loadXFromFile`, with
the store it makes once it has the lock; inside `s.mu.Lock()`, announced to readers and waiting
for the read locks to be released; holding the write lock, the store made, at `s.mu.Unlock()`;
at the deferred `s.mu.RUnlock()`, with what the method returns; or returned. -/
inductive Phase (S A : Type) where
  | rLock
  | lock (store : S → S)
  | drain (store : S → S)
  | unlock
  | rUnlock (answer : A)
  | returned (answer : A)

namespace Phase

variable {S A : Type}

/-- The phases in which a call holds the read lock it took on entry. -/
def holdsRead : Phase S A → Bool
  | rLock | returned _ => false
  | _ => true

/-- The phases in which a call holds the writers' mutex. -/
def holdsWrite : Phase S A → Bool
  | drain _ | unlock => true
  | _ => false

/-- The phases in which a call waits for the mutex. -/
def waits : Phase S A → Bool
  | rLock | lock _ | drain _ => true
  | _ => false

/-- The phase the code run under the read lock stops at. -/
def ofNext : Next S A → Phase S A
  | .lock st => lock st
  | .ret a => rUnlock a

end Phase

/-- A method call, as the code it runs between its calls on `s.mu`: after `RLock`, and after
`Unlock`. -/
structure Call (S A : Type) where
  enter : S → Next S A
  reread : S → A

/-- The call of a `ReadMethod`. -/
def ReadMethod.call {S V A : Type} (m : ReadMethod S V A) : Call S A := ⟨m.enter, m.reread⟩

/-- A caller: the call it runs and where it stands. -/
structure Caller (S A : Type) where
  call : Call S A
  phase : Phase S A

/-- A caller's next call on the mutex and its code up to the one after: the caller, the service
and the mutex after it, or nothing when the mutex makes it wait or it has returned. -/
def Caller.step {S A : Type} (c : Caller S A) (s : S) (mu : RWMutex) :
    Option (Caller S A × S × RWMutex) :=
  match c.phase with
  | .rLock =>
    if mu.writer then none
    else some (⟨c.call, .ofNext (c.call.enter s)⟩, s, ⟨mu.readers + 1, mu.writer⟩)
  | .lock st => if mu.writer then none else some (⟨c.call, .drain st⟩, s, ⟨mu.readers, true⟩)
  | .drain st => if mu.readers = 0 then some (⟨c.call, .unlock⟩, st s, mu) else none
  | .unlock => some (⟨c.call, .rUnlock (c.call.reread s)⟩, s, ⟨mu.readers, false⟩)
  | .rUnlock a => some (⟨c.call, .returned a⟩, s, ⟨mu.readers - 1, mu.writer⟩)
  | .returned _ => none

/-- What a caller's step does to the mutex: the count of read locks follows the caller's read
lock, and the writer flag is set by the caller that takes the writers' mutex and cleared by the
one that gives it back. -/
theorem Caller.step_counts {S A : Type} {c c' : Caller S A} {s s' : S} {mu mu' : RWMutex}
    (h : c.step s mu = some (c', s', mu')) (hr : c.phase.holdsRead = true → mu.readers ≠ 0) :
    mu'.readers + c.phase.holdsRead.toNat = mu.readers + c'.phase.holdsRead.toNat ∧
      (c'.phase.holdsWrite = c.phase.holdsWrite ∧ mu'.writer = mu.writer ∨
        c.phase.holdsWrite = false ∧ c'.phase.holdsWrite = true ∧ mu.writer = false ∧
          mu'.writer = true ∨
        c.phase.holdsWrite = true ∧ c'.phase.holdsWrite = false ∧ mu'.writer = false) := by
  obtain ⟨call, phase⟩ := c
  cases phase <;> simp only [Caller.step] at h
  case rLock =>
    split_ifs at h with hw
    cases h
    cases call.enter s <;> simp [Phase.ofNext, Phase.holdsRead, Phase.holdsWrite, hw]
  case lock st =>
    split_ifs at h with hw
    cases h
    simp [Phase.holdsRead, Phase.holdsWrite, hw]
  case drain st =>
    split_ifs at h
    cases h
    simp [Phase.holdsRead, Phase.holdsWrite]
  case unlock =>
    cases h
    simp [Phase.holdsRead, Phase.holdsWrite]
  case rUnlock a =>
    cases h
    have := hr rfl
    exact ⟨by simp [Phase.holdsRead]; omega, by simp [Phase.holdsWrite]⟩
  case returned a => cases h

/-- Only the step out of `Lock` changes the service, and only once the read locks are
released. -/
theorem Caller.step_service {S A : Type} {c c' : Caller S A} {s s' : S} {mu mu' : RWMutex}
    (h : c.step s mu = some (c', s', mu')) : s' = s ∨ ∃ st, c.phase = .drain st ∧ mu.readers = 0 := by
  obtain ⟨call, phase⟩ := c
  cases phase <;> simp only [Caller.step] at h
  case drain st =>
    split_ifs at h with h0
    exact Or.inr ⟨st, rfl, h0⟩
  case returned a => cases h
  all_goals (try split_ifs at h); cases h; exact Or.inl rfl

/-- The service, its mutex, and the callers. -/
structure System (S A : Type) where
  service : S
  mu : RWMutex
  callers : List (Caller S A)

namespace System

variable {S A : Type}

/-- Callers that have not yet called `RLock`, on a service with the zero mutex. -/
def start (s : S) (calls : List (Call S A)) : System S A :=
  ⟨s, .unlocked, calls.map (⟨·, .rLock⟩)⟩

/-- A step of caller `i`; nothing when it waits, has returned or does not exist. -/
def step (sys : System S A) (i : Nat) : Option (System S A) :=
  match sys.callers[i]? with
  | none => none
  | some c => (c.step sys.service sys.mu).map fun (c', s', mu') => ⟨s', mu', sys.callers.set i c'⟩

/-- The interleaving that schedules the callers in the order given. -/
def run (sys : System S A) : List Nat → System S A
  | [] => sys
  | i :: is => ((sys.step i).getD sys).run is

/-- The mutex counts the read locks the callers hold, and its writer flag counts the callers
that hold the writers' mutex, so that there is at most one. -/
structure Sound (sys : System S A) : Prop where
  readers : sys.mu.readers = sys.callers.countP (·.phase.holdsRead)
  writer : sys.mu.writer.toNat = sys.callers.countP (·.phase.holdsWrite)

/-- No caller can move, and every caller waits for the mutex. -/
def Deadlocked (sys : System S A) : Prop :=
  (∀ i, sys.step i = none) ∧ ∀ c ∈ sys.callers, c.phase.waits = true

theorem step_eq_some {sys sys' : System S A} {i : Nat} :
    sys.step i = some sys' ↔ ∃ c, sys.callers[i]? = some c ∧ ∃ c',
      c.step sys.service sys.mu = some (c', sys'.service, sys'.mu) ∧
        sys'.callers = sys.callers.set i c' := by
  unfold step
  cases sys.callers[i]? with
  | none => simp
  | some c =>
    constructor
    · intro h
      obtain ⟨⟨c', s', mu'⟩, hc, rfl⟩ := Option.map_eq_some'.1 h
      exact ⟨c, rfl, c', hc, rfl⟩
    · rintro ⟨_, ⟨⟩, c', hc, hcs⟩
      cases sys'
      simp_all

@[simp] theorem run_nil (sys : System S A) : sys.run [] = sys := rfl

theorem run_cons (sys : System S A) (i : Nat) (is : List Nat) :
    sys.run (i :: is) = ((sys.step i).getD sys).run is := rfl

theorem countP_start (s : S) (calls : List (Call S A)) (p : Phase S A → Bool)
    (hp : p .rLock = false) : (start s calls).callers.countP (fun c => p c.phase) = 0 := by
  simp [start, List.countP_eq_zero, hp]

theorem sound_start (s : S) (calls : List (Call S A)) : (start s calls).Sound where
  readers := (countP_start s calls _ rfl).symm
  writer := (countP_start s calls _ rfl).symm

/-- A caller that holds its read lock keeps the count of read locks positive. -/
theorem Sound.readers_pos {sys : System S A} (h : sys.Sound) {i : Nat} {c : Caller S A}
    (hc : sys.callers[i]? = some c) (hr : c.phase.holdsRead = true) : sys.mu.readers ≠ 0 := by
  have := one_le_countP (·.phase.holdsRead) hc hr
  rw [h.readers]
  omega

/-- Every step keeps the bookkeeping of the mutex. -/
theorem sound_step {sys sys' : System S A} {i : Nat} (h : sys.Sound) (hs : sys.step i = some sys') :
    sys'.Sound := by
  obtain ⟨c, hc, c', hstep, hcs⟩ := step_eq_some.1 hs
  obtain ⟨hR, hW⟩ := Caller.step_counts hstep (h.readers_pos hc)
  have hR' := countP_set_add (·.phase.holdsRead) hc c'
  have hW' := countP_set_add (·.phase.holdsWrite) hc c'
  have hle := sys.mu.writer.toNat_le
  obtain ⟨hr, hw⟩ := h
  obtain ⟨s', mu', cs'⟩ := sys'
  simp only at hR hW hcs hR' hW'
  subst hcs
  constructor <;> dsimp only
  · omega
  rcases hW with ⟨he, hw'⟩ | ⟨ho, hn, hmu, hw'⟩ | ⟨ho, hn, hw'⟩
  · rw [he] at hW'
    rw [hw']
    omega
  · simp only [ho, hn, hmu, hw', Bool.toNat_false, Bool.toNat_true] at hW' hw ⊢
    omega
  · simp only [ho, hn, hw', Bool.toNat_false, Bool.toNat_true] at hW' ⊢
    omega

theorem sound_run {sys : System S A} (h : sys.Sound) (sched : List Nat) : (sys.run sched).Sound := by
  induction sched generalizing sys with
  | nil => exact h
  | cons i is ih =>
    rw [run_cons]
    cases hs : sys.step i with
    | none => exact ih h
    | some sys' => exact ih (sound_step h hs)

/-- A step of another caller leaves caller `j` as it is. -/
theorem step_callers_ne {sys sys' : System S A} {i j : Nat} (hs : sys.step i = some sys')
    (hij : i ≠ j) : sys'.callers[j]? = sys.callers[j]? := by
  obtain ⟨_, _, _, _, hcs⟩ := step_eq_some.1 hs
  rw [hcs, List.getElem?_set_ne hij]

/-- No store is ever made: the caller that would make it waits for its own read lock. -/
theorem step_service {sys sys' : System S A} {i : Nat} (h : sys.Sound)
    (hs : sys.step i = some sys') : sys'.service = sys.service := by
  obtain ⟨c, hc, c', hstep, -⟩ := step_eq_some.1 hs
  rcases Caller.step_service hstep with hsvc | ⟨st, hd, h0⟩
  · exact hsvc
  · exact absurd h0 (h.readers_pos hc (by simp [hd, Phase.holdsRead]))

/-- While a caller waits in `Lock` for the read locks, only callers at `RUnlock` can move. -/
theorem step_of_drain {sys sys' : System S A} {t i : Nat} {ct : Caller S A} {st : S → S}
    (h : sys.Sound) (ht : sys.callers[t]? = some ct) (hd : ct.phase = .drain st)
    (hs : sys.step i = some sys') : ∃ c a, sys.callers[i]? = some c ∧ c.phase = .rUnlock a := by
  obtain ⟨c, hc, c', hstep, -⟩ := step_eq_some.1 hs
  have hw : sys.mu.writer = true := by
    have h1 := one_le_countP (·.phase.holdsWrite) ht (by simp [hd, Phase.holdsWrite])
    have h2 := h.writer
    cases hmu : sys.mu.writer
    · rw [hmu, Bool.toNat_false] at h2
      omega
    · rfl
  obtain ⟨call, phase⟩ := c
  cases phase <;> simp only [Caller.step, hw, if_true] at hstep
  case drain st' =>
    rw [if_neg (h.readers_pos hc rfl)] at hstep
    cases hstep
  case unlock =>
    have hit : i ≠ t := by
      rintro rfl
      rw [hc] at ht
      cases ht
      cases hd
    have := two_le_countP (·.phase.holdsWrite) hit hc ht rfl (by simp [hd, Phase.holdsWrite])
    have := h.writer
    have := sys.mu.writer.toNat_le
    omega
  case rUnlock a => exact ⟨_, a, hc, rfl⟩
  all_goals cases hstep

/-- A system in which a caller waits in `Lock` and every caller waits is deadlocked. -/
theorem deadlocked_of_drain {sys : System S A} {t : Nat} {ct : Caller S A} {st : S → S}
    (h : sys.Sound) (ht : sys.callers[t]? = some ct) (hd : ct.phase = .drain st)
    (hall : ∀ c ∈ sys.callers, c.phase.waits = true) : sys.Deadlocked := by
  refine ⟨fun i => ?_, hall⟩
  cases hs : sys.step i with
  | none => rfl
  | some sys' =>
    obtain ⟨c, a, hc, hp⟩ := step_of_drain h ht hd hs
    have := hall c (List.getElem?_mem hc)
    simp [hp, Phase.waits] at this

end System

namespace ReadMethod

variable {S V A : Type} (m : ReadMethod S V A)

/-- Caller `i` runs the call of `m` and has not got past the `s.mu.Lock()` that stores
`m.store v`. -/
def Waiting (v : V) (i : Nat) (sys : System S A) : Prop :=
  ∃ c, sys.callers[i]? = some c ∧ c.call = m.call ∧
    (c.phase = .rLock ∨ c.phase = .lock (m.store v) ∨ c.phase = .drain (m.store v))

theorem waiting_step {v : V} {i j : Nat} {sys sys' : System S A}
    (hmiss : m.lookup sys.service = none) (hload : m.load sys.service = .ok (some v))
    (h : sys.Sound) (hw : m.Waiting v i sys) (hs : sys.step j = some sys') :
    m.Waiting v i sys' := by
  obtain ⟨c, hc, hcall, hp⟩ := hw
  by_cases hij : j = i
  · subst hij
    obtain ⟨s', mu', cs'⟩ := sys'
    obtain ⟨c₀, hc₀, c', hstep, hcs⟩ := System.step_eq_some.1 hs
    rw [hc] at hc₀
    cases hc₀
    obtain ⟨call, phase⟩ := c
    subst hcall
    simp only at hstep hcs
    have hc' : cs'[j]? = some c' := by
      rw [hcs, List.getElem?_set_self (List.getElem?_eq_some_iff.1 hc).1]
    rcases hp with rfl | rfl | rfl <;> simp only [Caller.step] at hstep
    · split_ifs at hstep
      cases hstep
      refine ⟨_, hc', rfl, Or.inr (Or.inl ?_)⟩
      simp [ReadMethod.call, m.enter_of_load hmiss hload, Phase.ofNext]
    · split_ifs at hstep
      cases hstep
      exact ⟨_, hc', rfl, Or.inr (Or.inr rfl)⟩
    · rw [if_neg (h.readers_pos hc rfl)] at hstep
      cases hstep
  · exact ⟨c, by rw [System.step_callers_ne hs hij, hc], hcall, hp⟩

theorem waiting_run {v : V} {i : Nat} {sys : System S A}
    (hmiss : m.lookup sys.service = none) (hload : m.load sys.service = .ok (some v))
    (h : sys.Sound) (hw : m.Waiting v i sys) (sched : List Nat) :
    m.Waiting v i (sys.run sched) := by
  induction sched generalizing sys with
  | nil => exact hw
  | cons j js ih =>
    rw [System.run_cons]
    cases hs : sys.step j with
    | none => exact ih hmiss hload h hw
    | some sys' =>
      have hsvc := System.step_service h hs
      exact ih (hsvc ▸ hmiss) (hsvc ▸ hload) (System.sound_step h hs) (m.waiting_step hmiss hload h hw hs)

/-- A call of `m` for which the service holds nothing and the load finds a value never returns,
whatever the other callers and the interleaving. -/
theorem run_waits {s : S} {v : V} (hmiss : m.lookup s = none) (hload : m.load s = .ok (some v))
    (pre post : List (Call S A)) (sched : List Nat) :
    ∃ c, ((System.start s (pre ++ m.call :: post)).run sched).callers[pre.length]? = some c ∧
      c.phase.waits = true := by
  have hw : m.Waiting v pre.length (System.start s (pre ++ m.call :: post)) :=
    ⟨⟨m.call, .rLock⟩, by
      rw [System.start, List.map_append, List.map_cons, List.getElem?_append_right (by simp)]
      simp, rfl, Or.inl rfl⟩
  obtain ⟨c, hc, -, hp⟩ := m.waiting_run hmiss hload (System.sound_start _ _) hw sched
  refine ⟨c, hc, ?_⟩
  rcases hp with hp | hp | hp <;> simp [hp, Phase.waits]

/-- Run first, such a call takes the read lock and announces itself as a writer. -/
theorem run_first {s : S} {v : V} (hmiss : m.lookup s = none) (hload : m.load s = .ok (some v))
    (others : List (Call S A)) :
    (System.start s (m.call :: others)).run [0, 0] =
      ⟨s, ⟨1, true⟩, ⟨m.call, .drain (m.store v)⟩ :: others.map (⟨·, .rLock⟩)⟩ := by
  simp [System.run, System.step, System.start, Caller.step, RWMutex.unlocked, ReadMethod.call,
    m.enter_of_load hmiss hload, Phase.ofNext]

/-- ... and then no caller ever moves again. -/
theorem deadlocked_of_first {s : S} {v : V} (hmiss : m.lookup s = none)
    (hload : m.load s = .ok (some v)) (others : List (Call S A)) :
    ((System.start s (m.call :: others)).run [0, 0]).Deadlocked := by
  have hsound := System.sound_run (System.sound_start s (m.call :: others)) [0, 0]
  rw [m.run_first hmiss hload] at hsound ⊢
  exact System.deadlocked_of_drain hsound List.getElem?_cons_zero rfl (by simp [Phase.waits])

end ReadMethod

/-! ## Calls that only read

A call whose code under the read lock returns, because its gateway is cached or because the load
has nothing to store, takes and releases a read lock and nothing else. With such calls alone the
writer flag stays down and no caller ever waits. -/

namespace System

variable {S A : Type}

/-- A caller whose code under the read lock returns `a` without asking for the write lock: at
`RLock`, at the deferred `RUnlock` with `a`, or returned with `a`. -/
def Reads (s : S) (c : Caller S A) : Prop :=
  ∃ a, c.call.enter s = .ret a ∧ (c.phase = .rLock ∨ c.phase = .rUnlock a ∨ c.phase = .returned a)

/-- The service is still `s`, no caller holds the writers' mutex, and every caller only reads. -/
structure ReadsOnly (s : S) (sys : System S A) : Prop where
  service : sys.service = s
  writer : sys.mu.writer = false
  callers : ∀ c ∈ sys.callers, Reads s c

/-- Each of `n` callers scheduled twice, in turn. -/
def eachTwice (n : Nat) : List Nat := (List.range n).flatMap fun i => [i, i]

theorem readsOnly_start {s : S} {calls : List (Call S A)}
    (hret : ∀ c ∈ calls, ∃ a, c.enter s = .ret a) : (start s calls).ReadsOnly s := by
  refine ⟨rfl, rfl, fun c hc => ?_⟩
  obtain ⟨call, hcall, rfl⟩ := List.mem_map.1 hc
  obtain ⟨a, ha⟩ := hret call hcall
  exact ⟨a, ha, .inl rfl⟩

/-- A reading caller's step takes it from `RLock` to `RUnlock` or from `RUnlock` to returned; it
keeps the service and leaves the writer flag down. -/
theorem Reads.step {s s' : S} {c c' : Caller S A} {mu mu' : RWMutex} (h : Reads s c)
    (hw : mu.writer = false) (hs : c.step s mu = some (c', s', mu')) :
    Reads s c' ∧ c'.call = c.call ∧ s' = s ∧ mu'.writer = false := by
  obtain ⟨a, ha, hp⟩ := h
  obtain ⟨call, phase⟩ := c
  dsimp only at ha hp
  rcases hp with rfl | rfl | rfl <;>
    simp only [Caller.step, hw, ha, Phase.ofNext, Bool.false_eq_true, if_false,
      Option.some.injEq, Prod.mk.injEq, reduceCtorEq] at hs
  · obtain ⟨rfl, rfl, rfl⟩ := hs
    exact ⟨⟨a, ha, .inr (.inl rfl)⟩, rfl, rfl, rfl⟩
  · obtain ⟨rfl, rfl, rfl⟩ := hs
    exact ⟨⟨a, ha, .inr (.inr rfl)⟩, rfl, rfl, rfl⟩

theorem ReadsOnly.step {s : S} {sys sys' : System S A} {i : Nat} (h : sys.ReadsOnly s)
    (hs : sys.step i = some sys') :
    sys'.ReadsOnly s ∧ sys'.callers.map Caller.call = sys.callers.map Caller.call := by
  obtain ⟨c, hc, c', hstep, hcs⟩ := step_eq_some.1 hs
  rw [h.service] at hstep
  obtain ⟨hr, hcall, hsvc, hw⟩ := (h.callers c (List.getElem?_mem hc)).step h.writer hstep
  refine ⟨⟨hsvc, hw, fun x hx => ?_⟩, by rw [hcs, map_set_of_eq hc hcall]⟩
  rw [hcs] at hx
  exact (List.mem_or_eq_of_mem_set hx).elim (h.callers x) (· ▸ hr)

theorem ReadsOnly.run {s : S} {sys : System S A} (h : sys.ReadsOnly s) (sched : List Nat) :
    (sys.run sched).ReadsOnly s ∧
      (sys.run sched).callers.map Caller.call = sys.callers.map Caller.call := by
  induction sched generalizing sys with
  | nil => exact ⟨h, rfl⟩
  | cons i is ih =>
    rw [run_cons]
    cases hs : sys.step i with
    | none => exact ih h
    | some sys' =>
      obtain ⟨h', hm⟩ := h.step hs
      exact (ih h').imp_right (·.trans hm)

theorem run_append (sys : System S A) (l₁ l₂ : List Nat) :
    sys.run (l₁ ++ l₂) = (sys.run l₁).run l₂ := by
  induction l₁ generalizing sys with
  | nil => rfl
  | cons i is ih => exact ih _

/-- A step keeps caller `j` returned: a returned caller does not move. -/
theorem step_settled {sys sys' : System S A} {i j : Nat} (hs : sys.step i = some sys')
    (hj : ∀ c, sys.callers[j]? = some c → ∃ a, c.phase = .returned a) :
    ∀ c, sys'.callers[j]? = some c → ∃ a, c.phase = .returned a := by
  by_cases hij : i = j
  · subst hij
    obtain ⟨⟨call, phase⟩, hc, c', hstep, -⟩ := step_eq_some.1 hs
    obtain ⟨a, rfl⟩ := hj _ hc
    cases hstep
  · rwa [step_callers_ne hs hij]

theorem run_settled {sys : System S A} {j : Nat}
    (hj : ∀ c, sys.callers[j]? = some c → ∃ a, c.phase = .returned a) (sched : List Nat) :
    ∀ c, (sys.run sched).callers[j]? = some c → ∃ a, c.phase = .returned a := by
  induction sched generalizing sys with
  | nil => exact hj
  | cons i is ih =>
    rw [run_cons]
    cases hs : sys.step i with
    | none => exact ih hj
    | some sys' => exact ih (step_settled hs hj)

/-- Scheduled twice in a row, a reading caller returns. -/
theorem ReadsOnly.run_pair {s : S} {sys : System S A} (h : sys.ReadsOnly s) (i : Nat) :
    ∀ c, (sys.run [i, i]).callers[i]? = some c → ∃ a, c.phase = .returned a := by
  cases hc : sys.callers[i]? with
  | none => simp [run_cons, System.step, hc]
  | some c =>
    obtain ⟨a, ha, hp⟩ := h.callers c (List.getElem?_mem hc)
    have hi := (List.getElem?_eq_some_iff.1 hc).1
    obtain ⟨call, phase⟩ := c
    dsimp only at ha
    rcases hp with rfl | rfl | rfl
    · simp [run_cons, System.step, hc, Caller.step, h.writer, h.service, ha, Phase.ofNext, hi]
    · simp [run_cons, System.step, hc, Caller.step, hi]
    · exact run_settled (by simp [hc]) [i, i]

/-- Scheduling each index of `is` twice in turn returns every caller at one of them. -/
theorem ReadsOnly.run_pairs {s : S} {sys : System S A} (h : sys.ReadsOnly s) (is : List Nat) :
    ∀ j ∈ is, ∀ c, (sys.run (is.flatMap fun i => [i, i])).callers[j]? = some c →
      ∃ a, c.phase = .returned a := by
  induction is generalizing sys with
  | nil => intro j hj; cases hj
  | cons i is ih =>
    rw [List.flatMap_cons, run_append]
    intro j hj
    rcases List.mem_cons.1 hj with rfl | hj
    · exact run_settled (h.run_pair j) _
    · exact ih (h.run [i, i]).1 j hj

/-- **Calls that only read always return.** When the code every call runs under its read lock
returns without asking for the write lock, as it does for a cached gateway, then whatever
interleaving has run, scheduling each caller twice in turn returns every caller, with the answer
its code computed on the service it started from; the service is never changed. -/
theorem run_returns_of_reads (s : S) (calls : List (Call S A))
    (hret : ∀ c ∈ calls, ∃ a, c.enter s = .ret a) (sched : List Nat) :
    (((start s calls).run sched).run (eachTwice calls.length)).service = s ∧
    (((start s calls).run sched).run (eachTwice calls.length)).callers.map Caller.call = calls ∧
    ∀ c ∈ (((start s calls).run sched).run (eachTwice calls.length)).callers,
      ∃ a, c.call.enter s = .ret a ∧ c.phase = .returned a := by
  obtain ⟨h₁, hm₁⟩ := (readsOnly_start hret).run sched
  obtain ⟨h₂, hm₂⟩ := h₁.run (eachTwice calls.length)
  have hcalls : (start s calls).callers.map Caller.call = calls := by
    simp [start, Function.comp_def]
  refine ⟨h₂.service, hm₂.trans (hm₁.trans hcalls), fun c hc => ?_⟩
  obtain ⟨j, hj⟩ := List.mem_iff_getElem?.1 hc
  have hlen : j < calls.length := by
    have := (List.getElem?_eq_some_iff.1 hj).1
    rwa [← List.length_map _ Caller.call, hm₂.trans (hm₁.trans hcalls)] at this
  obtain ⟨a, hr⟩ := h₁.run_pairs (List.range calls.length) j (List.mem_range.2 hlen) c hj
  obtain ⟨b, hb, hp⟩ := h₂.callers c hc
  rcases hp with hp | hp | hp <;> rw [hr] at hp <;> cases hp
  exact ⟨a, hb, hr⟩

end System

/-- What a caller of either method returns. -/
inductive Answer where
  | release (r : Except ControlError LoadResponse)
  | features (r : Except ControlError LoadFeatureResponse)

section Methods

variable {Gw Pc : Type} (disk : Disk Gw Pc)

/-- A `GetGatewayRelease` call, among callers of both methods. -/
def releaseCall (gateway lastVersion : String) (lastPriorityVersions : GoMap String) :
    Call (ControlService Gw Pc) Answer :=
  ((getGatewayRelease disk gateway lastVersion lastPriorityVersions).map .release).call

/-- A `GetGatewayFeatures` call, among callers of both methods. -/
def featuresCall (gateway : String) : Call (ControlService Gw Pc) Answer :=
  ((getGatewayFeatures disk gateway).map .features).call

/-- A `GetGatewayFeatures` call for a gateway whose features are not cached and whose
`features.json` exists and parses never returns, whatever the other callers and the
interleaving. Run first, it leaves every other caller waiting for good. -/
theorem getGatewayFeatures_deadlocks (s : ControlService Gw Pc) (gateway data : String)
    (f : GatewayFeatures) (hmiss : s.features.find? gateway = none)
    (hex : disk.notExist [s.dataDir, gateway, "features.json"] = false)
    (hread : disk.readFile [s.dataDir, gateway, "features.json"] = .ok data)
    (hparse : disk.unmarshalFeatures data = .ok f) :
    (∀ (pre post : List (Call (ControlService Gw Pc) Answer)) (sched : List Nat), ∃ c,
      ((System.start s (pre ++ featuresCall disk gateway :: post)).run sched).callers[pre.length]? =
        some c ∧ c.phase.waits = true) ∧
    ∀ others, ((System.start s (featuresCall disk gateway :: others)).run [0, 0]).Deadlocked := by
  let m := (getGatewayFeatures disk gateway).map Answer.features
  have hmiss' : m.lookup s = none := hmiss
  have hload : m.load s = .ok (some f) := decodeFile_of_decodes disk hex hread hparse
  exact ⟨m.run_waits hmiss' hload, m.deadlocked_of_first hmiss' hload⟩

/-- A `GetGatewayRelease` call for a gateway that is not cached and whose `config.yaml` exists and
parses never returns, whatever the other callers and the interleaving. Run first, it leaves every
other caller waiting for good. The same holds of a `GetGatewayFeatures` call on the same service
whose `features.json` exists and parses. -/
theorem getGatewayRelease_deadlocks (s : ControlService Gw Pc) (gateway lastVersion data : String)
    (lastPriorityVersions : GoMap String) (gw : Gw) (hmiss : s.configs.find? gateway = none)
    (hex : disk.notExist [s.dataDir, gateway, "config.yaml"] = false)
    (hread : disk.readFile [s.dataDir, gateway, "config.yaml"] = .ok data)
    (hparse : disk.unmarshalGateway data = .ok gw) :
    (∀ (pre post : List (Call (ControlService Gw Pc) Answer)) (sched : List Nat), ∃ c,
      ((System.start s (pre ++ releaseCall disk gateway lastVersion lastPriorityVersions :: post)).run
        sched).callers[pre.length]? = some c ∧ c.phase.waits = true) ∧
    (∀ others, ((System.start s (releaseCall disk gateway lastVersion lastPriorityVersions :: others)).run
      [0, 0]).Deadlocked) ∧
    ∀ fgateway fdata (f : GatewayFeatures), s.features.find? fgateway = none →
      disk.notExist [s.dataDir, fgateway, "features.json"] = false →
      disk.readFile [s.dataDir, fgateway, "features.json"] = .ok fdata →
      disk.unmarshalFeatures fdata = .ok f →
      (∀ (pre post : List (Call (ControlService Gw Pc) Answer)) (sched : List Nat), ∃ c,
        ((System.start s (pre ++ featuresCall disk fgateway :: post)).run sched).callers[pre.length]? =
          some c ∧ c.phase.waits = true) ∧
      ∀ others, ((System.start s (featuresCall disk fgateway :: others)).run [0, 0]).Deadlocked := by
  let m := (getGatewayRelease disk gateway lastVersion lastPriorityVersions).map Answer.release
  have hmiss' : m.lookup s = none := hmiss
  have hload : m.load s = .ok (some ⟨gw, readVersion disk [s.dataDir, gateway, "version.txt"],
      readPriorityConfigs disk [s.dataDir, gateway, "priority"]⟩) :=
    loadConfigFromFile_of_parses disk hex hread hparse
  exact ⟨m.run_waits hmiss' hload, m.deadlocked_of_first hmiss' hload,
    fun fgateway fdata f => getGatewayFeatures_deadlocks disk s fgateway fdata f⟩

end Methods

/-- A data directory holding only `data/demo/config.yaml`; a message is its own text. -/
def demoDisk : Disk String String where
  notExist p := p != ["data", "demo", "config.yaml"]
  readFile p :=
    if p = ["data", "demo", "config.yaml"] then .ok "name: demo"
    else .error (.text "no such file or directory")
  readDir _ := .error (.text "no such file or directory")
  unmarshalGateway := .ok
  unmarshalPriority := .ok
  unmarshalFeatures _ := .error (.text "unexpected end of JSON input")
  marshalGateway := .ok
  marshalPriority := .ok

/-- The service `NewControlService("data")` returns. -/
def demoService : ControlService String String := ⟨"data", .empty, .empty⟩

theorem getGatewayRelease_deadlocks_demo :
    demoService.configs.find? "demo" = none ∧
    demoDisk.notExist [demoService.dataDir, "demo", "config.yaml"] = false ∧
    demoDisk.readFile [demoService.dataDir, "demo", "config.yaml"] = .ok "name: demo" ∧
    demoDisk.unmarshalGateway "name: demo" = .ok "name: demo" ∧
    ((∀ (pre post : List (Call (ControlService String String) Answer)) (sched : List Nat), ∃ c,
      ((System.start demoService (pre ++ releaseCall demoDisk "demo" "" GoMap.empty :: post)).run
        sched).callers[pre.length]? = some c ∧ c.phase.waits = true) ∧
    (∀ others, ((System.start demoService (releaseCall demoDisk "demo" "" GoMap.empty :: others)).run
      [0, 0]).Deadlocked) ∧
    ∀ fgateway fdata (f : GatewayFeatures), demoService.features.find? fgateway = none →
      demoDisk.notExist [demoService.dataDir, fgateway, "features.json"] = false →
      demoDisk.readFile [demoService.dataDir, fgateway, "features.json"] = .ok fdata →
      demoDisk.unmarshalFeatures fdata = .ok f →
      (∀ (pre post : List (Call (ControlService String String) Answer)) (sched : List Nat), ∃ c,
        ((System.start demoService (pre ++ featuresCall demoDisk fgateway :: post)).run
          sched).callers[pre.length]? = some c ∧ c.phase.waits = true) ∧
      ∀ others, ((System.start demoService (featuresCall demoDisk fgateway :: others)).run
        [0, 0]).Deadlocked) :=
  ⟨rfl, rfl, rfl, rfl, getGatewayRelease_deadlocks demoDisk demoService "demo" "" "name: demo"
    GoMap.empty "name: demo" rfl rfl rfl rfl⟩

/-- The demo service once `data/demo/config.yaml` has been loaded into its cache. -/
def cachedService : ControlService String String :=
  ⟨"data", GoMap.empty.insert "demo" ⟨"name: demo", "v1.0.0", GoMap.empty⟩, GoMap.empty⟩

/-- A release request for the cached gateway, and a features request for a gateway without a
features file. -/
def cachedCalls : List (Call (ControlService String String) Answer) :=
  [releaseCall demoDisk "demo" "" GoMap.empty, featuresCall demoDisk "demo"]

theorem run_returns_of_reads_cached :
    (∀ c ∈ cachedCalls, ∃ a, c.enter cachedService = .ret a) ∧
    (((System.start cachedService cachedCalls).run [1, 0]).run
        (System.eachTwice cachedCalls.length)).service = cachedService ∧
    (((System.start cachedService cachedCalls).run [1, 0]).run
        (System.eachTwice cachedCalls.length)).callers.map Caller.call = cachedCalls ∧
    ∀ c ∈ (((System.start cachedService cachedCalls).run [1, 0]).run
        (System.eachTwice cachedCalls.length)).callers,
      ∃ a, c.call.enter cachedService = .ret a ∧ c.phase = .returned a := by
  have hret : ∀ c ∈ cachedCalls, ∃ a, c.enter cachedService = .ret a := by
    intro c hc
    simp only [cachedCalls, List.mem_cons, List.mem_singleton, List.not_mem_nil, or_false] at hc
    rcases hc with rfl | rfl <;> exact ⟨_, rfl⟩
  exact ⟨hret, System.run_returns_of_reads cachedService cachedCalls hret [1, 0]⟩

/-- Alone, the first request to the demo gateway takes the read lock, enters `Lock` and stays
there, whatever is scheduled next. -/
example : ((System.start demoService [releaseCall demoDisk "demo" "" GoMap.empty]).run
    [0, 0, 0, 0]).callers.map (·.phase.waits) = [true] := by decide

end Goddess.Control
