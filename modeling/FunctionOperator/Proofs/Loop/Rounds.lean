import FunctionOperator.Loop.Rehearsal
import FunctionOperator.Proofs.Sync.WriteSafety

/-!
# Repeated syncs

A key is synced again and again, each time against an API that fails as told. Read `Wiring.rounds`
first, and `Sync.round` beside it: what comes of one sync is a function of the tree of the sync and
of the calls that fail. `Wiring.rounds_pairwise` is the induction on the rounds.
-/

namespace FunctionOperator

/-- What comes of one sync: its result, and the writes it asks for, each with its failure if it
fails. A sync sends no call twice, so that the failures of calls make up every behaviour of the
API. -/
structure Round where
  /-- The result. -/
  result : SyncResult
  /-- The writes, in order. -/
  attempts : List (Write × Option ApiFailure)

namespace Round

/-- The round of a sync that finds nothing to do. -/
def idle : Round := ⟨.ok .unchanged, []⟩

/-- The writes that are performed. -/
def accepted (round : Round) : List Write :=
  (round.attempts.filter (·.2.isNone)).map (·.1)

/-- Some call of the round fails. -/
def Fails (round : Round) : Prop := ∃ attempt ∈ round.attempts, attempt.2.isSome = true

/-- Whether a call fails is seen by looking at all of them. -/
instance (round : Round) : Decidable round.Fails :=
  inferInstanceAs (Decidable (∃ attempt ∈ round.attempts, attempt.2.isSome = true))

end Round

namespace Sync

variable {failures : List (WriteCall × ApiFailure)}

/-- What comes of a sync if calls fail as told. -/
def round (failures : List (WriteCall × ApiFailure)) : Sync → Round
  | .finished result => ⟨result, []⟩
  | .writing write resume =>
    let failure := failures.lookup write.call
    let later := round failures (resume (failure.elim (.ok ()) .error))
    ⟨later.result, (write, failure) :: later.attempts⟩

/-- A write that fails is the last one. -/
theorem round_attempt_failed {write : Write} {failure : ApiFailure}
    (h : failures.lookup write.call = some failure) (rest : Sync) :
    (attempt write rest).round failures = ⟨.error (.api failure), [(write, some failure)]⟩ := by
  rw [attempt, round, h]
  rfl

/-- After a write that does not fail the sync goes on. -/
theorem round_attempt_performed {write : Write} (h : failures.lookup write.call = none)
    (rest : Sync) :
    (attempt write rest).round failures =
      ⟨(rest.round failures).result, (write, none) :: (rest.round failures).attempts⟩ := by
  rw [attempt, round, h]
  rfl

/-- Against an API whose answers are those that were told, a run comes to what the sync comes to;
the API then has noted the writes one after the other. -/
theorem run_eq_round {γ : Type} {perform : Write → γ → Except ApiFailure Unit × γ}
    {note : γ → Write × Option ApiFailure → γ} (Told : γ → Prop)
    (hperform : ∀ write state, Told state →
      perform write state = ((failures.lookup write.call).elim (.ok ()) .error,
        note state (write, failures.lookup write.call)))
    (hnote : ∀ state attempt, Told state → Told (note state attempt)) (sync : Sync) {state : γ}
    (h : Told state) :
    sync.run perform state =
      ((sync.round failures).result, (sync.round failures).attempts.foldl note state) := by
  induction sync generalizing state with
  | finished result => rfl
  | writing write resume ih =>
    rw [run, hperform write state h]
    exact ih _ (hnote _ _ h)

end Sync

/-- The next version of an object records what the object records. -/
theorem Metadata.Records.next_version {σ : Type} [DecidableEq σ] {kind : PrimaryKind σ}
    {primary : Primary σ} {metadata : Metadata} (h : metadata.Records kind primary) :
    metadata.nextVersion.Records kind primary := h

namespace Wiring

variable {γ ε : Type} (wiring : Wiring γ ε) (key : String)

/-- Syncs a key once, with a fresh record of the API. -/
def round (failures : List (WriteCall × ApiFailure)) (view : γ) : Round × γ :=
  let (result, view) := wiring.sync key (wiring.withApi view { failures := failures })
  (⟨result, (wiring.api view).attempts⟩, view)

/-- Syncs a key once for each pattern of failures. -/
def rounds : List (List (WriteCall × ApiFailure)) → γ → List Round
  | [], _ => []
  | failures :: patterns, view =>
    let (round, view) := wiring.round key failures view
    round :: rounds patterns view

/-! ## One round -/

/-- The view after a write and its answer, if it learns of performed writes. -/
def noted (learn : γ → Write → γ) (view : γ) (attempt : Write × Option ApiFailure) : γ :=
  wiring.withApi (if attempt.2.isNone then learn view attempt.1 else view)
    { wiring.api view with attempts := (wiring.api view).attempts ++ [attempt] }

/-- The API of a view is a part of it that nothing else depends on. -/
structure Detached (learn : γ → Write → γ) : Prop where
  /-- The API that was put in is the one. -/
  api_with : ∀ view api, wiring.api (wiring.withApi view api) = api
  /-- Putting in the same API changes nothing. -/
  with_api : ∀ view, wiring.withApi view (wiring.api view) = view
  /-- The API that was put in last counts. -/
  with_with : ∀ view first second,
    wiring.withApi (wiring.withApi view first) second = wiring.withApi view second
  /-- What the view learns has nothing to do with the API. -/
  learn_with : ∀ view api write, learn (wiring.withApi view api) write =
    wiring.withApi (learn view write) api

variable {wiring key} {learn : γ → Write → γ}

/-- What a view learns of several writes has nothing to do with the API. -/
theorem Detached.foldl_learn_with (h : wiring.Detached learn) (writes : List Write) (view : γ)
    (api : ScriptedApi) :
    writes.foldl learn (wiring.withApi view api) =
      wiring.withApi (writes.foldl learn view) api := by
  induction writes generalizing view with
  | nil => rfl
  | cons write writes ih => rw [List.foldl_cons, h.learn_with, ih, List.foldl_cons]

/-- After some writes, the view has learned of those that were performed. -/
theorem Detached.foldl_noted (h : wiring.Detached learn)
    (attempts : List (Write × Option ApiFailure)) (view : γ) :
    attempts.foldl (wiring.noted learn) view =
      wiring.withApi (((attempts.filter (·.2.isNone)).map (·.1)).foldl learn view)
        { wiring.api view with attempts := (wiring.api view).attempts ++ attempts } := by
  induction attempts generalizing view with
  | nil => simp [h.with_api]
  | cons attempt attempts ih =>
    rw [List.foldl_cons, ih, noted, h.foldl_learn_with, h.with_with, h.api_with, List.append_assoc,
      List.singleton_append]
    cases hperformed : attempt.2.isNone <;> simp [hperformed]

/-- A round for a key that names an object comes to what the sync of the object comes to, and then
the view has learned of the performed writes. -/
theorem Detached.round_eq {σ : Type} {kind : PrimaryKind σ} {primaries : Store (Primary σ)}
    {converge : Primary σ → Sync} {perform : Write → γ → Except ApiFailure Unit × γ}
    {failures : List (WriteCall × ApiFailure)} {view : γ} {primary : Primary σ}
    (h : wiring.Detached learn) (Ready : γ → Prop)
    (hsync : wiring.sync key (wiring.withApi view { failures := failures }) =
      let (result, event, next) := runSync kind primaries converge perform key
        (wiring.withApi view { failures := failures })
      (result, wiring.withApi next ((wiring.api next).tell event)))
    (hperform : ∀ write view, Ready view → perform write view =
      (((wiring.api view).failures.lookup write.call).elim (.ok ()) .error,
        wiring.noted learn view (write, (wiring.api view).failures.lookup write.call)))
    (hready : ∀ view attempt, Ready view → Ready (wiring.noted learn view attempt))
    (hview : Ready (wiring.withApi view { failures := failures }))
    (hnames : Names primaries key primary) :
    ∃ api, wiring.round key failures view =
      ((converge primary).round failures,
        wiring.withApi (((converge primary).round failures).accepted.foldl learn view) api) := by
  have hanswer : ∀ write view, Ready view ∧ (wiring.api view).failures = failures →
      perform write view = ((failures.lookup write.call).elim (.ok ()) .error,
        wiring.noted learn view (write, failures.lookup write.call)) := by
    rintro write view ⟨hreadied, rfl⟩
    exact hperform write view hreadied
  have hkeep : ∀ view attempt, Ready view ∧ (wiring.api view).failures = failures →
      Ready (wiring.noted learn view attempt) ∧
        (wiring.api (wiring.noted learn view attempt)).failures = failures := by
    rintro view attempt ⟨hreadied, hfailures⟩
    refine ⟨hready view attempt hreadied, ?_⟩
    rw [noted, h.api_with]
    exact hfailures
  have hrun := Sync.run_eq_round _ hanswer hkeep (converge primary)
    ⟨hview, congrArg _ (h.api_with _ _)⟩
  rw [h.foldl_noted, h.foldl_learn_with, h.with_with, h.api_with, List.nil_append] at hrun
  rw [round, hsync, run_sync_of_names hnames, hrun]
  simp only [h.api_with, h.with_with]
  exact ⟨_, rfl⟩

/-! ## All rounds -/

/-- A loop that stays settled finds nothing to do. -/
theorem rounds_idle (Settled : γ → Prop)
    (hidle : ∀ failures view, Settled view →
      (wiring.round key failures view).1 = .idle ∧ Settled (wiring.round key failures view).2)
    (patterns : List (List (WriteCall × ApiFailure))) {view : γ} (h : Settled view) :
    ∀ round ∈ wiring.rounds key patterns view, round = .idle := by
  induction patterns generalizing view with
  | nil => nofun
  | cons failures patterns ih =>
    obtain ⟨hround, hnext⟩ := hidle failures view h
    intro round hmem
    rcases List.mem_cons.1 hmem with rfl | hmem
    · exact hround
    · exact ih hnext round hmem

/-- If a sync that goes well settles the loop, nothing is left to do after it. -/
theorem rounds_pairwise (Fit Settled : γ → Prop)
    (hfit : ∀ failures view, Fit view → Fit (wiring.round key failures view).2 ∧
      ∀ outcome, (wiring.round key failures view).1.result = .ok outcome →
        Settled (wiring.round key failures view).2)
    (hidle : ∀ failures view, Settled view →
      (wiring.round key failures view).1 = .idle ∧ Settled (wiring.round key failures view).2)
    (patterns : List (List (WriteCall × ApiFailure))) {view : γ} (h : Fit view) :
    (wiring.rounds key patterns view).Pairwise fun earlier later =>
      (∃ outcome, earlier.result = .ok outcome) → later = .idle := by
  induction patterns generalizing view with
  | nil => exact .nil
  | cons failures patterns ih =>
    obtain ⟨hnext, hsettled⟩ := hfit failures view h
    refine .cons (fun later hlater ⟨outcome, hok⟩ => ?_) (ih hnext)
    exact rounds_idle Settled hidle patterns (hsettled outcome hok) later hlater

end Wiring

end FunctionOperator
