import Mathlib.Logic.Function.Basic
import Mathlib.Logic.Relation
import RegionGateway.Proofs.Output.Planning

/-!
# Owners that workers share

Workers that process files side by side share one set of owners behind a lock. A call takes the lock,
looks its type up, enters a type that is new, and gives the lock back, and between any two of these steps
other workers may make theirs (`Step`). The worker inside a call holds the lock, so what it has found still
holds when it acts on it (`Sound`), and each call is answered as if it were made in one piece
(`step_cases`, `Run.inOnePiece`). Hence the first claim of a type is the only one that succeeds, whatever the
order of the steps (`claimed_once`). Every interleaving of calls is the history of a run (`exists_run`).
-/

namespace RegionGateway.SharedOwners

/-! ## Calls -/

/-- A call on the shared owners. -/
inductive Call where
  | claim (type module : String)
  | query (type : String)

/-- The type that a call is about. -/
def Call.type : Call → String
  | .claim type _ => type
  | .query type => type

/-- What a call is answered. -/
inductive Answer where
  /-- Whether a claim is the first one of its type. -/
  | claimed (first : Bool)
  /-- The module that owns a type, if one does. -/
  | owner (module : Option String)

/-- A call made in one piece: its answer, and the owners afterwards. -/
def Call.perform : Call → WrapperOwners → Answer × WrapperOwners
  | .claim type module, owners => ((owners.claim type module).map .claimed id)
  | .query type, owners => (.owner (owners.owner? type), owners)

/-- Calls made in one piece, one after the other: their answers, and the owners afterwards. -/
def performAll : List Call → WrapperOwners → List Answer × WrapperOwners
  | [], owners => ([], owners)
  | call :: rest, owners =>
    (performAll rest (call.perform owners).2).map ((call.perform owners).1 :: ·) id

theorem performAll_concat (calls : List Call) (call : Call) (owners : WrapperOwners) :
    performAll (calls ++ [call]) owners =
      ((performAll calls owners).1 ++ [(call.perform (performAll calls owners).2).1],
        (call.perform (performAll calls owners).2).2) := by
  induction calls generalizing owners with
  | nil => rfl
  | cons first rest ih =>
      rw [List.cons_append, performAll, ih]
      rfl

variable {ι : Type}

/-- A call that was answered. -/
structure Event (ι : Type) where
  worker : ι
  call : Call
  answer : Answer

/-- Who made the call. -/
def Event.request (event : Event ι) : ι × Call := (event.worker, event.call)

/-! ## What is told about a type -/

/-- A type is not claimed, and who asks for its owner is told that it has none. -/
def Unclaimed (type : String) (history : List (Event ι)) : Prop :=
  ∀ event ∈ history, event.call.type = type → event.call = .query type ∧ event.answer = .owner none

/-- Every claim of a type is refused, and who asks for its owner is told the module. -/
def Taken (type module : String) (history : List (Event ι)) : Prop :=
  ∀ event ∈ history, event.call.type = type →
    (event.call = .query type ∧ event.answer = .owner (some module)) ∨
      ∃ other, event.call = .claim type other ∧ event.answer = .claimed false

/-- The calls about a type, with its owner after them: it is unclaimed up to the first claim, which
succeeds, and taken from then on. -/
inductive Told (type : String) : List (Event ι) → Option String → Prop
  | unclaimed {history} (all : Unclaimed type history) : Told type history none
  | claimed {before worker module after} (earlier : Unclaimed type before) (later : Taken type module after) :
      Told type (before ++ ⟨worker, .claim type module, .claimed true⟩ :: after) (some module)

variable {type module : String} {owners : WrapperOwners}

theorem perform_other {call : Call} (h : call.type ≠ type) :
    (call.perform owners).2.owner? type = owners.owner? type := by
  cases call with
  | claim claimed module =>
      have hother : claimed ≠ type := h
      show (owners.claim claimed module).2.owner? type = _
      rw [WrapperOwners.owner?_claim, if_neg hother, Option.or_none]
  | query asked => rfl

/-- An owner is never changed or removed. -/
theorem perform_keeps (h : owners.owner? type = some module) (call : Call) :
    (call.perform owners).2.owner? type = some module := by
  cases call with
  | claim claimed other =>
      show (owners.claim claimed other).2.owner? type = _
      rw [WrapperOwners.owner?_claim, h, Option.some_or]
  | query asked => exact h

/-- What is told about a type goes on with a claim of it. -/
theorem Told.claim {history : List (Event ι)} (h : Told type history (owners.owner? type)) (worker : ι)
    (module : String) :
    Told type (history ++ [⟨worker, .claim type module, .claimed (owners.claim type module).1⟩])
      ((owners.claim type module).2.owner? type) := by
  rw [WrapperOwners.claim_fst, WrapperOwners.owner?_claim, if_pos rfl]
  generalize owners.owner? type = owner at h
  cases h with
  | unclaimed all => exact .claimed all (by simp [Taken])
  | @claimed before first owner after earlier later =>
      rw [List.append_assoc, List.cons_append]
      refine .claimed earlier (List.forall_mem_append.mpr ⟨later, ?_⟩)
      intro event hevent _
      rw [List.mem_singleton.mp hevent]
      exact .inr ⟨module, rfl, rfl⟩

/-- What is told about a type goes on with a query for its owner. -/
theorem Told.query {history : List (Event ι)} {owner : Option String} (h : Told type history owner)
    (worker : ι) : Told type (history ++ [⟨worker, .query type, .owner owner⟩]) owner := by
  cases h with
  | unclaimed all => exact .unclaimed (List.forall_mem_append.mpr ⟨all, by simp⟩)
  | @claimed before first module after earlier later =>
      rw [List.append_assoc, List.cons_append]
      refine .claimed earlier (List.forall_mem_append.mpr ⟨later, ?_⟩)
      intro event hevent _
      rw [List.mem_singleton.mp hevent]
      exact .inl ⟨rfl, rfl⟩

/-- What is told about a type goes on with a call about another one. -/
theorem Told.other {history : List (Event ι)} {owner : Option String} (h : Told type history owner)
    {event : Event ι} (hother : event.call.type ≠ type) : Told type (history ++ [event]) owner := by
  cases h with
  | unclaimed all =>
      refine .unclaimed (List.forall_mem_append.mpr ⟨all, ?_⟩)
      intro silent hsilent habout
      rw [List.mem_singleton.mp hsilent] at habout
      exact absurd habout hother
  | @claimed before first module after earlier later =>
      rw [List.append_assoc, List.cons_append]
      refine .claimed earlier (List.forall_mem_append.mpr ⟨later, ?_⟩)
      intro silent hsilent habout
      rw [List.mem_singleton.mp hsilent] at habout
      exact absurd habout hother

theorem Told.perform {history : List (Event ι)} (h : Told type history (owners.owner? type)) (worker : ι)
    (call : Call) :
    Told type (history ++ [⟨worker, call, (call.perform owners).1⟩])
      ((call.perform owners).2.owner? type) := by
  by_cases htype : call.type = type
  · cases call with
    | claim claimed module =>
        obtain rfl : claimed = type := htype
        exact h.claim worker module
    | query asked =>
        obtain rfl : asked = type := htype
        exact h.query worker
  · rw [perform_other htype]
    exact h.other htype

/-! ## Steps -/

/-- Where a worker is with its calls. -/
inductive Phase where
  /-- Between two calls. -/
  | outside
  /-- In a call, with the lock taken. -/
  | entered (call : Call)
  /-- In a claim, after it was found whether the type is claimed. -/
  | looked (type module : String) (found : Bool)
  /-- At the end of a call, with the lock still taken. -/
  | answered

/-- The call that a worker is in and that is not answered yet. -/
def Phase.current : Phase → List Call
  | .outside => []
  | .entered call => [call]
  | .looked type module _ => [.claim type module]
  | .answered => []

/-- The owners, the lock and the workers. -/
structure System (ι : Type) where
  owners : WrapperOwners
  /-- The worker that has the lock. -/
  holder : Option ι
  phase : ι → Phase
  /-- The calls that a worker has not begun yet. -/
  pending : ι → List Call
  /-- The calls that were answered, in the order of their answers. -/
  history : List (Event ι)

/-- Nothing is claimed yet, and the workers are about to make their calls. -/
def start (programs : ι → List Call) : System ι := ⟨.empty, none, fun _ => .outside, programs, []⟩

variable [DecidableEq ι]

/-- A worker goes on to another phase. -/
def System.move (system : System ι) (worker : ι) (phase : Phase) : System ι :=
  { system with phase := Function.update system.phase worker phase }

/-- A worker gets the answer of its call. -/
def System.tell (system : System ι) (worker : ι) (call : Call) (answer : Answer) : System ι :=
  { system.move worker .answered with history := system.history ++ [⟨worker, call, answer⟩] }

/-- What can happen next. -/
inductive Step : System ι → System ι → Prop
  /-- A worker takes the lock for its next call. -/
  | enter {system worker call rest} (outside : system.phase worker = .outside)
      (free : system.holder = none) (next : system.pending worker = call :: rest) :
      Step system { system.move worker (.entered call) with
        holder := some worker, pending := Function.update system.pending worker rest }
  /-- A claim looks whether its type is claimed. -/
  | look {system worker type module} (inside : system.phase worker = .entered (.claim type module)) :
      Step system (system.move worker (.looked type module (system.owners.contains type)))
  /-- A claim of a type that was found is refused. -/
  | refuse {system worker type module} (inside : system.phase worker = .looked type module true) :
      Step system (system.tell worker (.claim type module) (.claimed false))
  /-- A claim of a type that was not found enters it. -/
  | insert {system worker type module} (inside : system.phase worker = .looked type module false) :
      Step system { system.tell worker (.claim type module) (.claimed true) with
        owners := ⟨(type, module) :: system.owners.entries⟩ }
  /-- A query reads the owner of its type. -/
  | read {system worker type} (inside : system.phase worker = .entered (.query type)) :
      Step system (system.tell worker (.query type) (.owner (system.owners.owner? type)))
  /-- A worker gives the lock back after its call. -/
  | leave {system worker} (inside : system.phase worker = .answered) :
      Step system { system.move worker .outside with holder := none }

/-- What happens over time. -/
def Run : System ι → System ι → Prop := Relation.ReflTransGen Step

/-- The calls of one worker among those of all. -/
def callsOf (worker : ι) (requests : List (ι × Call)) : List Call :=
  (requests.filter (·.1 = worker)).map (·.2)

/-! ## One step -/

variable {system next : System ι} {worker : ι}

/-- The worker inside a call has the lock, and what a claim has found is still so. -/
structure Sound (system : System ι) : Prop where
  alone : ∀ worker, system.phase worker = .outside ↔ system.holder ≠ some worker
  looked : ∀ worker type module found, system.phase worker = .looked type module found →
    found = system.owners.contains type

/-- While a worker is inside a call, every other one is outside. -/
theorem Sound.others_outside (h : Sound system) {other : ι} (hinside : system.phase worker ≠ .outside)
    (hother : other ≠ worker) : system.phase other = .outside := by
  have hholder : system.holder = some worker := by
    by_contra hne
    exact hinside ((h.alone worker).mpr hne)
  rw [h.alone, hholder]
  intro hsame
  exact hother (Option.some.inj hsame).symm

omit [DecidableEq ι] in
theorem sound_start (programs : ι → List Call) : Sound (start programs) := by
  constructor
  · intro worker
    simp [start]
  · intro worker type module found hlooked
    cases hlooked

/-- A step inside a call keeps the lock where it is. -/
theorem Sound.alone_move (h : Sound system) (hinside : system.phase worker ≠ .outside) {phase : Phase}
    (hphase : phase ≠ .outside) (other : ι) :
    (system.move worker phase).phase other = .outside ↔ system.holder ≠ some other := by
  rw [← h.alone]
  by_cases hother : other = worker
  · subst hother
    simp [System.move, hphase, hinside]
  · simp [System.move, hother]

/-- After a step inside a call, the worker that makes it is the only one that can have looked. -/
theorem Sound.looked_move (h : Sound system) (hinside : system.phase worker ≠ .outside) {phase : Phase}
    {other : ι} {type module : String} {found : Bool}
    (hlooked : (system.move worker phase).phase other = .looked type module found) :
    phase = .looked type module found := by
  by_cases hother : other = worker
  · subst hother
    simpa [System.move] using hlooked
  · have houtside := h.others_outside hinside hother
    simp [System.move, hother, houtside] at hlooked

/-- A worker that is told the answer of its call keeps the lock, and has looked at nothing. -/
theorem Sound.answer (h : Sound system) (hinside : system.phase worker ≠ .outside)
    (hphase : next.phase = (system.move worker .answered).phase) (hholder : next.holder = system.holder) :
    Sound next := by
  constructor
  · intro other
    rw [hphase, hholder]
    exact h.alone_move hinside (by simp) other
  · intro other type module found hlooked
    rw [hphase] at hlooked
    cases h.looked_move hinside hlooked

theorem Sound.step (h : Sound system) (hstep : Step system next) : Sound next := by
  cases hstep with
  | @enter worker call rest houtside hfree hnext =>
      constructor
      · intro other
        by_cases hother : other = worker
        · subst hother
          simp [System.move]
        · have : system.phase other = .outside := by
            rw [h.alone, hfree]
            nofun
          simp [System.move, hother, this, Ne.symm hother]
      · intro other type module found hlooked
        by_cases hother : other = worker
        · subst hother
          simp [System.move] at hlooked
        · refine h.looked other type module found ?_
          simpa [System.move, hother] using hlooked
  | @look worker type module hinside =>
      have hin : system.phase worker ≠ .outside := by simp [hinside]
      refine ⟨h.alone_move hin (by simp), ?_⟩
      intro other type' module' found hlooked
      obtain ⟨rfl, -, rfl⟩ := Phase.looked.inj (h.looked_move hin hlooked)
      rfl
  | refuse hinside =>
      exact h.answer (by simp [hinside]) rfl rfl
  | insert hinside =>
      exact h.answer (by simp [hinside]) rfl rfl
  | read hinside =>
      exact h.answer (by simp [hinside]) rfl rfl
  | @leave worker hinside =>
      have hin : system.phase worker ≠ .outside := by simp [hinside]
      constructor
      · intro other
        by_cases hother : other = worker
        · subst hother
          simp [System.move]
        · simp [System.move, hother, h.others_outside hin hother]
      · intro other type module found hlooked
        cases h.looked_move hin hlooked

/-- A step answers no call and leaves the owners alone, or it answers one as if the call were made in one
piece. -/
theorem step_cases (h : Sound system) (hstep : Step system next) :
    (next.owners = system.owners ∧ next.history = system.history) ∨
      ∃ worker call, next.owners = (call.perform system.owners).2 ∧
        next.history = system.history ++ [⟨worker, call, (call.perform system.owners).1⟩] := by
  cases hstep with
  | enter _ _ _ => exact .inl ⟨rfl, rfl⟩
  | look _ => exact .inl ⟨rfl, rfl⟩
  | @refuse worker type module hinside =>
      have hfound := h.looked worker type module true hinside
      have hclaim : system.owners.claim type module = (false, system.owners) := by
        rw [WrapperOwners.claim, if_pos hfound.symm]
      refine .inr ⟨worker, .claim type module, ?_, ?_⟩
      · rw [Call.perform, hclaim]
        rfl
      · rw [Call.perform, hclaim]
        rfl
  | @insert worker type module hinside =>
      have hfound := h.looked worker type module false hinside
      have hclaim : system.owners.claim type module =
          (true, ⟨(type, module) :: system.owners.entries⟩) := by
        rw [WrapperOwners.claim, if_neg (by simp [← hfound])]
      refine .inr ⟨worker, .claim type module, ?_, ?_⟩
      · rw [Call.perform, hclaim]
        rfl
      · rw [Call.perform, hclaim]
        rfl
  | @read worker type _ => exact .inr ⟨worker, .query type, rfl, rfl⟩
  | leave _ => exact .inl ⟨rfl, rfl⟩

/-! ## Interleavings -/

/-- Nobody is inside a call. -/
structure Idle (system : System ι) : Prop where
  outside : ∀ worker, system.phase worker = .outside
  free : system.holder = none

/-- A call that a worker is in comes to its answer. -/
theorem exists_answer {call : Call} (hinside : system.phase worker = .entered call) :
    ∃ told, Run system told ∧ told.phase = Function.update system.phase worker .answered ∧
      told.pending = system.pending ∧
      told.history.map Event.request = system.history.map Event.request ++ [(worker, call)] := by
  cases call with
  | query type =>
      refine ⟨_, .single (.read hinside), rfl, rfl, ?_⟩
      simp [System.tell, System.move, Event.request]
  | claim type module =>
      have hlook := Step.look hinside
      cases hfound : system.owners.contains type with
      | true =>
          rw [hfound] at hlook
          refine ⟨_, .tail (.single hlook) (.refuse (Function.update_self _ _ _)), ?_, rfl, ?_⟩
          · exact Function.update_idem _ _ _
          · simp [System.tell, System.move, Event.request]
      | false =>
          rw [hfound] at hlook
          refine ⟨_, .tail (.single hlook) (.insert (Function.update_self _ _ _)), ?_, rfl, ?_⟩
          · exact Function.update_idem _ _ _
          · simp [System.tell, System.move, Event.request]

/-- A worker can make its next call while nobody is inside one. -/
theorem Idle.exists_call (h : Idle system) {call : Call} {rest : List Call}
    (hnext : system.pending worker = call :: rest) :
    ∃ after, Run system after ∧ Idle after ∧ after.pending = Function.update system.pending worker rest ∧
      after.history.map Event.request = system.history.map Event.request ++ [(worker, call)] := by
  have henter := Step.enter (h.outside worker) h.free hnext
  have hinside : ({ system.move worker (.entered call) with
      holder := some worker, pending := Function.update system.pending worker rest } : System ι).phase worker =
        .entered call := Function.update_self _ _ _
  obtain ⟨told, hrun, hphase, hpending, hhistory⟩ := exists_answer hinside
  have hanswered : told.phase worker = .answered := by simp [hphase]
  refine ⟨_, .tail (.head henter hrun) (.leave hanswered), ⟨?_, rfl⟩, hpending, hhistory⟩
  intro other
  by_cases hother : other = worker
  · subst hother
    simp [System.move]
  · simp [System.move, hphase, hother, h.outside]

theorem Idle.exists_run {schedule : List (ι × Call)} (h : Idle system)
    (hpending : ∀ worker, system.pending worker = callsOf worker schedule) :
    ∃ final, Run system final ∧
      final.history.map Event.request = system.history.map Event.request ++ schedule := by
  induction schedule generalizing system with
  | nil => exact ⟨system, .refl, by simp⟩
  | cons request schedule ih =>
      obtain ⟨worker, call⟩ := request
      have hnext : system.pending worker = call :: callsOf worker schedule := by
        simp [hpending, callsOf]
      obtain ⟨after, hrun, hidle, hrest, hhistory⟩ := h.exists_call hnext
      obtain ⟨final, hfinal, hcalls⟩ := ih hidle fun other => by
        by_cases hother : other = worker
        · subst hother
          simp [hrest]
        · simp [hrest, hother, hpending, callsOf, Ne.symm hother]
      refine ⟨final, hrun.trans hfinal, ?_⟩
      rw [hcalls, hhistory, List.append_assoc]
      rfl

/-- Every interleaving of the calls of the workers is the history of a run. -/
theorem exists_run {programs : ι → List Call} {schedule : List (ι × Call)}
    (h : ∀ worker, callsOf worker schedule = programs worker) :
    ∃ system, Run (start programs) system ∧ system.history.map Event.request = schedule := by
  have hidle : Idle (start programs) := ⟨fun _ => rfl, rfl⟩
  obtain ⟨final, hrun, hcalls⟩ := hidle.exists_run fun worker => (h worker).symm
  exact ⟨final, hrun, hcalls⟩

/-! ## Runs -/

/-- A call that is answered, the one that a worker is in, and those it has not begun are its calls in
order. -/
def InOrder (programs : ι → List Call) (system : System ι) : Prop :=
  ∀ worker, callsOf worker (system.history.map Event.request) ++
    ((system.phase worker).current ++ system.pending worker) = programs worker

theorem callsOf_append (worker : ι) (requests more : List (ι × Call)) :
    callsOf worker (requests ++ more) = callsOf worker requests ++ callsOf worker more := by
  simp [callsOf]

/-- A worker that is told the answer of the call it is in goes on in order. -/
theorem InOrder.tell {programs : ι → List Call} (h : InOrder programs system) {call : Call}
    (hcurrent : (system.phase worker).current = [call]) (answer : Answer) :
    InOrder programs (system.tell worker call answer) := by
  intro other
  have hother := h other
  by_cases hsame : other = worker
  · subst hsame
    rw [hcurrent] at hother
    simpa [System.tell, System.move, Phase.current, callsOf_append, callsOf, Event.request] using hother
  · simpa [System.tell, System.move, hsame, Ne.symm hsame, callsOf_append, callsOf, Event.request] using hother

theorem InOrder.move {programs : ι → List Call} (h : InOrder programs system) {phase : Phase}
    (hcurrent : (system.phase worker).current = phase.current) :
    InOrder programs (system.move worker phase) := by
  intro other
  have hother := h other
  by_cases hsame : other = worker
  · subst hsame
    rw [hcurrent] at hother
    simpa [System.move] using hother
  · simpa [System.move, hsame] using hother

theorem InOrder.step {programs : ι → List Call} (h : InOrder programs system)
    (hstep : Step system next) : InOrder programs next := by
  cases hstep with
  | @enter worker call rest houtside _ hnext =>
      intro other
      have hother := h other
      by_cases hsame : other = worker
      · subst hsame
        rw [houtside, hnext] at hother
        simpa [System.move, Phase.current] using hother
      · simpa [System.move, hsame] using hother
  | look hinside => exact h.move (by rw [hinside]; rfl)
  | refuse hinside => exact h.tell (by rw [hinside]; rfl) _
  | insert hinside => exact h.tell (by rw [hinside]; rfl) _
  | read hinside => exact h.tell (by rw [hinside]; rfl) _
  | leave hinside => exact h.move (by rw [hinside]; rfl)

/-- What holds at every point of a run. -/
structure ClaimedOnce (programs : ι → List Call) (system : System ι) : Prop where
  /-- The calls of each worker are answered in order. -/
  inOrder : ∀ worker, callsOf worker (system.history.map Event.request) <+: programs worker
  /-- All answers, and the owners, are those of `WrapperOwners.claim` and `WrapperOwners.owner?` where the same
  calls are made in one piece, one after the other. -/
  inOnePiece : performAll (system.history.map Event.call) .empty =
    (system.history.map Event.answer, system.owners)
  /-- Of the claims of a type the first one succeeds and all others are refused; who asks for its owner is
  told none before that claim, and its module from then on. That is the owner now. -/
  told : ∀ type, Told type system.history (system.owners.owner? type)
  /-- An owner is never changed or removed. -/
  kept : ∀ later, Run system later → ∀ type module, system.owners.owner? type = some module →
    later.owners.owner? type = some module
  /-- Nothing is stuck: as long as a worker has calls left, a step is possible. -/
  proceeds : (∃ worker, system.phase worker ≠ .outside ∨ system.pending worker ≠ []) →
    ∃ next, Step system next

theorem Run.sound (h : Run system next) (hsound : Sound system) : Sound next := by
  induction h with
  | refl => exact hsound
  | tail _ hstep ih => exact ih.step hstep

theorem Run.keeps (h : Run system next) (hsound : Sound system) {type module : String}
    (howner : system.owners.owner? type = some module) : next.owners.owner? type = some module := by
  induction h with
  | refl => exact howner
  | tail hrun hstep ih =>
      rcases step_cases (Run.sound hrun hsound) hstep with ⟨howners, -⟩ | ⟨_, call, howners, -⟩
      · rw [howners, ih]
      · rw [howners]
        exact perform_keeps ih call

/-- What the calls of a history are answered, made in one piece from no owners, is what they were answered. -/
theorem Run.inOnePiece (h : Run system next) (hsound : Sound system)
    (hstart : performAll (system.history.map Event.call) .empty =
      (system.history.map Event.answer, system.owners)) :
    performAll (next.history.map Event.call) .empty = (next.history.map Event.answer, next.owners) := by
  induction h with
  | refl => exact hstart
  | tail hrun hstep ih =>
      rcases step_cases (Run.sound hrun hsound) hstep with
        ⟨howners, hhistory⟩ | ⟨worker, call, howners, hhistory⟩
      · rw [howners, hhistory, ih]
      · rw [howners, hhistory, List.map_append, List.map_append]
        exact (performAll_concat _ _ _).trans (by rw [ih]; rfl)

theorem Run.told (h : Run system next) (hsound : Sound system) {type : String}
    (htold : Told type system.history (system.owners.owner? type)) :
    Told type next.history (next.owners.owner? type) := by
  induction h with
  | refl => exact htold
  | tail hrun hstep ih =>
      have hcases := step_cases (Run.sound hrun hsound) hstep
      rcases hcases with ⟨howners, hhistory⟩ | ⟨worker, call, howners, hhistory⟩
      · rw [howners, hhistory]
        exact ih
      · rw [howners, hhistory]
        exact ih.perform worker call

theorem Run.inOrder {programs : ι → List Call} (h : Run system next) (horder : InOrder programs system) :
    InOrder programs next := by
  induction h with
  | refl => exact horder
  | tail _ hstep ih => exact ih.step hstep

/-- A worker inside a call can go on. -/
theorem exists_step_of_inside (hinside : system.phase worker ≠ .outside) : ∃ next, Step system next := by
  cases hphase : system.phase worker with
  | outside => exact absurd hphase hinside
  | entered call =>
      cases call with
      | claim type module => exact ⟨_, .look hphase⟩
      | query type => exact ⟨_, .read hphase⟩
  | looked type module found =>
      cases found with
      | false => exact ⟨_, .insert hphase⟩
      | true => exact ⟨_, .refuse hphase⟩
  | answered => exact ⟨_, .leave hphase⟩

theorem Sound.exists_step (h : Sound system)
    (hleft : ∃ worker, system.phase worker ≠ .outside ∨ system.pending worker ≠ []) :
    ∃ next, Step system next := by
  by_cases hall : ∀ worker, system.phase worker = .outside
  · -- nobody has the lock, so whoever has a call left can take it
    have hfree : system.holder = none := by
      cases hholder : system.holder with
      | none => rfl
      | some worker => exact absurd hholder ((h.alone worker).mp (hall worker))
    obtain ⟨worker, hworker⟩ := hleft
    obtain ⟨call, rest, hnext⟩ := List.exists_cons_of_ne_nil (hworker.resolve_left (not_not.mpr (hall worker)))
    exact ⟨_, .enter (hall worker) hfree hnext⟩
  · obtain ⟨worker, hinside⟩ := not_forall.mp hall
    exact exists_step_of_inside hinside

/-- **A type is claimed once, in every interleaving.** Any number of workers make any calls on shared owners,
and their steps happen in any order. At every point, the calls were answered as if each had been made in one
piece; each type is unclaimed, or exactly one claim of it has succeeded, the first one; the answers to all
calls and the owners agree with that, and no owner is changed or removed later. -/
theorem claimed_once {programs : ι → List Call} (h : Run (start programs) system) :
    ClaimedOnce programs system := by
  have hsound := Run.sound h (sound_start programs)
  refine ⟨?_, Run.inOnePiece h (sound_start programs) rfl, ?_, ?_, hsound.exists_step⟩
  · intro worker
    have horder : InOrder programs (start programs) := fun worker => rfl
    exact ⟨_, Run.inOrder h horder worker⟩
  · intro type
    exact Run.told h (sound_start programs) (.unclaimed nofun)
  · intro later hlater type module howner
    exact Run.keeps hlater hsound howner

/-- The calls of two workers, of which the second asks first and claims too late. -/
def rivalCalls : List (Bool × Call) :=
  [(true, .query "Widget"), (false, .claim "Widget" "edge"), (true, .claim "Widget" "cloud"),
    (false, .query "Widget")]

theorem claimed_once_rivals : ∃ system,
    Run (start fun worker => callsOf worker rivalCalls) system ∧
      system.history.map Event.request = rivalCalls ∧
      ClaimedOnce (fun worker => callsOf worker rivalCalls) system := by
  obtain ⟨system, hrun, hcalls⟩ : ∃ system, Run (start fun worker => callsOf worker rivalCalls) system ∧
      system.history.map Event.request = rivalCalls := exists_run fun worker => rfl
  exact ⟨system, hrun, hcalls, claimed_once hrun⟩

end RegionGateway.SharedOwners
