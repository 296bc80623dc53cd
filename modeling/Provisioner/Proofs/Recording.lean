import Mathlib
import Provisioner.Kube.Create

/-!
# A platform that records what it is asked

`recording` answers every request from a `Responder`, a function of the requests received so
far, so it stands for any script an API server or a package manager could follow, and it
keeps the requests in order. Events are dropped. On it a create is one step: the object is
posted and the answer decides the outcome (`createOrExists_run`). Creating a list of objects
in order posts a prefix of the list: all of it when every answer accepts, up to and including
the first refused object otherwise (`run_mapM_accepted`, `run_mapM_refused`).
-/

namespace Provisioner

inductive Request where
  | post (o : Kube.KubeObject)
  | locate (repo chart : String)
  | load (path : String)
  | install (chart : Chart) (r : ReleaseRequest)

/-- How a recording platform answers each request, given the requests received before it. -/
structure Responder where
  post : List Request → Kube.KubeObject → Except ClientError Unit
  locate : List Request → String → String → Except ReleaseError String
  load : List Request → String → Except ReleaseError Chart
  install : List Request → Chart → ReleaseRequest → Except ReleaseError Release

abbrev Recorded := StateM (List Request)

def recording (r : Responder) : Platform Recorded where
  post _ o := modifyGet fun log => (r.post log o, log ++ [.post o])
  packages :=
    { locate := fun _ repo chart => modifyGet fun log =>
        (r.locate log repo chart, log ++ [.locate repo chart])
      load := fun _ path => modifyGet fun log => (r.load log path, log ++ [.load path])
      install := fun _ chart req => modifyGet fun log =>
        (r.install log chart req, log ++ [.install chart req]) }
  emit _ _ := pure ()

@[simp] theorem recording_emit (r : Responder) (scope : Scope) (e : Event) :
    (recording r).emit scope e = pure () := rfl

namespace Kube

def verdict : Except ClientError Unit → Option CreateOutcome
  | .ok () => some .created
  | .error (.api a) => if a.reason = "AlreadyExists" then some .alreadyExists else none
  | .error _ => none

def createResult (o : KubeObject) : Except ClientError Unit → Except Failure CreateOutcome
  | .ok () => .ok .created
  | .error (.api a) =>
    if a.reason = "AlreadyExists" then .ok .alreadyExists else .error (createFailure o (.api a))
  | .error e => .error (createFailure o e)

theorem createResult_eq_ok {o : KubeObject} {a : Except ClientError Unit} {v : CreateOutcome} :
    createResult o a = .ok v ↔ verdict a = some v := by
  rcases a with (e | _ | d) | ⟨⟩
  · simp only [verdict, createResult]
    split <;> simp
  all_goals simp [verdict, createResult]

theorem createResult_of_refused {o : KubeObject} {a : Except ClientError Unit}
    (h : verdict a = none) : ∃ e, a = .error e ∧ createResult o a = .error (createFailure o e) := by
  rcases a with (e | _ | d) | ⟨⟩
  · simp only [verdict] at h
    split at h <;> simp_all [createResult]
  all_goals simp_all [verdict, createResult]

end Kube

def answers (r : Responder) (log : List Request) : List Kube.KubeObject →
    List (Except ClientError Unit)
  | [] => []
  | o :: os => r.post log o :: answers r (log ++ [.post o]) os

theorem answers_append (r : Responder) (log : List Request) (os os' : List Kube.KubeObject) :
    answers r log (os ++ os') = answers r log os ++ answers r (log ++ os.map .post) os' := by
  induction os generalizing log with
  | nil => simp [answers]
  | cons o os ih => simp [answers, ih]

theorem accepted_or_first_refused :
    ∀ as : List (Except ClientError Unit), (∀ a ∈ as, Kube.verdict a ≠ none) ∨
      ∃ pre a post, as = pre ++ a :: post ∧ (∀ x ∈ pre, Kube.verdict x ≠ none) ∧
        Kube.verdict a = none
  | [] => Or.inl (by simp)
  | x :: as => by
    by_cases hx : Kube.verdict x = none
    · exact Or.inr ⟨[], x, as, rfl, by simp, hx⟩
    rcases accepted_or_first_refused as with h | ⟨pre, a, post, rfl, hpre, ha⟩
    · exact Or.inl (List.forall_mem_cons.2 ⟨hx, h⟩)
    · exact Or.inr ⟨x :: pre, a, post, rfl, List.forall_mem_cons.2 ⟨hx, hpre⟩, ha⟩

theorem length_answers (r : Responder) (log : List Request) (os : List Kube.KubeObject) :
    (answers r log os).length = os.length := by
  induction os generalizing log with
  | nil => rfl
  | cons o os ih => simp [answers, ih]

/-! ### One create -/

section
variable (r : Responder) (scope : Scope) (o : Kube.KubeObject)

theorem recording_post_run (log : List Request) :
    ((recording r).post scope o).run log = (r.post log o, log ++ [.post o]) := rfl

theorem id_bind_eq {α β : Type} (x : α) (f : α → Id β) : (x >>= f : Id β) = f x := rfl

theorem id_map_eq {α β : Type} (f : α → β) (x : α) : (f <$> x : Id β) = f x := rfl

theorem createOrExists_run (log : List Request) :
    (Kube.createOrExists (recording r) scope o).run.run log =
      (Kube.createResult o (r.post log o), log ++ [.post o]) := by
  simp only [Kube.createOrExists, ExceptT.run_bind, ExceptT.run_lift, liftM, monadLift,
    MonadLift.monadLift, StateT.run_bind, StateT.run_map, recording_post_run, id_bind_eq,
    id_map_eq]
  rcases r.post log o with (a | _ | d) | ⟨⟩
  · by_cases hr : a.reason = "AlreadyExists"
    · simp [hr, Kube.createResult]
      rfl
    · simp [hr, Kube.createResult]
      rfl
  all_goals
    simp [Kube.createResult]
    rfl

theorem createOrExists_bind_run {β : Type} (f : Kube.CreateOutcome → ExceptT Failure Recorded β)
    (log : List Request) :
    (Kube.createOrExists (recording r) scope o >>= f).run.run log =
      match Kube.createResult o (r.post log o) with
      | .ok v => (f v).run.run (log ++ [.post o])
      | .error e => (.error e, log ++ [.post o]) := by
  rw [ExceptT.run_bind, StateT.run_bind, createOrExists_run]
  cases Kube.createResult o (r.post log o) <;> rfl

end

/-! ### Objects created in order -/

section
variable (r : Responder) (scope : Scope)

theorem run_mapM_accepted (os : List Kube.KubeObject) (log : List Request)
    (h : ∀ a ∈ answers r log os, Kube.verdict a ≠ none) :
    (os.mapM (Kube.createOrExists (recording r) scope)).run.run log =
      (.ok ((answers r log os).filterMap Kube.verdict), log ++ os.map .post) := by
  induction os generalizing log with
  | nil =>
    simp [answers]
    rfl
  | cons o os ih =>
    simp only [answers, List.mem_cons, forall_eq_or_imp] at h
    obtain ⟨v, hv⟩ := Option.ne_none_iff_exists'.1 h.1
    rw [List.mapM_cons, createOrExists_bind_run, Kube.createResult_eq_ok.2 hv]
    simp only [bind_pure_comp, ExceptT.run_map, StateT.run_map, ih _ h.2, answers, hv,
      List.filterMap_cons, List.map_cons, List.append_assoc, List.singleton_append]
    rfl

theorem run_mapM_refused (os : List Kube.KubeObject) (log : List Request)
    {pre post : List (Except ClientError Unit)} {a : Except ClientError Unit}
    (h : answers r log os = pre ++ a :: post) (hpre : ∀ x ∈ pre, Kube.verdict x ≠ none)
    (ha : Kube.verdict a = none) :
    ∃ o e, os[pre.length]? = some o ∧ a = .error e ∧
      (os.mapM (Kube.createOrExists (recording r) scope)).run.run log =
        (.error (Kube.createFailure o e), log ++ (os.take (pre.length + 1)).map .post) := by
  induction os generalizing log pre with
  | nil => simp [answers] at h
  | cons o os ih =>
    rw [List.mapM_cons, createOrExists_bind_run]
    cases pre with
    | nil =>
      simp only [answers, List.nil_append, List.cons.injEq] at h
      obtain ⟨e, rfl, he⟩ := Kube.createResult_of_refused (o := o) ha
      rw [h.1, he]
      exact ⟨o, e, rfl, rfl, by simp⟩
    | cons x pre =>
      simp only [answers, List.cons_append, List.cons.injEq] at h
      simp only [List.mem_cons, forall_eq_or_imp] at hpre
      obtain ⟨v, hv⟩ := Option.ne_none_iff_exists'.1 (h.1 ▸ hpre.1)
      obtain ⟨o', e, ho', rfl, hrun⟩ := ih _ h.2 hpre.2
      rw [Kube.createResult_eq_ok.2 hv]
      refine ⟨o', e, by simpa using ho', rfl, ?_⟩
      simp only [bind_pure_comp, ExceptT.run_map, StateT.run_map, hrun]
      simp
      rfl

end

end Provisioner
