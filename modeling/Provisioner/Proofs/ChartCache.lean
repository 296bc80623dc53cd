import Mathlib
import Provisioner.Proofs.HelmHost

/-!
# Where locating a chart writes

Locating `repo/chart` clears `cacheDir/repo/chart`, creates `cacheDir/repo` and has helm pull
the chart there, each step only after the ones before succeeded (`locateChart_steps`). Paths are
compared once resolved lexically; the names descending is exactly what keeps every path strictly
inside the cache (`locateChart_stays_in_cache`).
-/

namespace Provisioner.Path

def namesOf (cs : List Char) : List String :=
  ((cs.splitOn '/').map String.ofList).filter fun s => s != "" && s != "."

def names (p : String) : List String := namesOf p.toList

/-- One name resolved against the names before it, kept last first: `..` removes the name
before it, stays at the root, and is kept when there is nothing to remove. -/
def climb (root : Bool) (acc : List String) (name : String) : List String :=
  if name = ".." then
    match acc with
    | [] => if root then [] else [".."]
    | ".." :: _ => ".." :: acc
    | _ :: rest => rest
  else name :: acc

/-- A path with `.` and `..` resolved lexically: whether it starts at the root, and its names,
last first. -/
def lexical (p : String) : Bool × List String :=
  (isAbsolute p, (names p).foldl (climb (isAbsolute p)) [])

/-- `p` lies strictly below `base` once both are resolved lexically: it starts where `base`
does and goes on through `base` into at least one more name. -/
def StrictlyBelow (base p : String) : Prop :=
  (lexical p).1 = (lexical base).1 ∧
    ∃ rest, rest ≠ [] ∧ ".." ∉ rest ∧ (lexical p).2 = rest ++ (lexical base).2

/-- A path naming something strictly inside the directory it is read from: it is relative,
and resolved lexically it keeps a name and never climbs out. -/
def Descends (p : String) : Prop :=
  isAbsolute p = false ∧ (lexical p).2 ≠ [] ∧ ".." ∉ (lexical p).2

theorem namesOf_nil : namesOf [] = [] := rfl

theorem namesOf_append_slash (a b : List Char) :
    namesOf (a ++ '/' :: b) = namesOf a ++ namesOf b := by
  simp [namesOf, List.splitOn_append_cons_self]

theorem isAbsolute_iff (p : String) : isAbsolute p = true ↔ ['/'] <+: p.toList := by
  simp [isAbsolute]

theorem isAbsolute_append {a : String} (ha : a ≠ "") (b : String) :
    isAbsolute (a ++ b) = isAbsolute a := by
  obtain ⟨c, cs, hc⟩ := List.exists_cons_of_ne_nil (by simpa using ha : a.toList ≠ [])
  rw [Bool.eq_iff_iff, isAbsolute_iff, isAbsolute_iff, String.toList_append, hc]
  simp [List.cons_prefix_cons]

theorem join_of_relative (base : String) {q : String} (hq : isAbsolute q = false) :
    names (join base q) = names base ++ names q ∧ isAbsolute (join base q) = isAbsolute base := by
  by_cases hempty : base = ""
  · subst hempty
    have hjoin : join "" q = q := by simp [join, hq]
    rw [hjoin, hq]
    exact ⟨by simp [names, namesOf_nil], by simp [isAbsolute]⟩
  by_cases hslash : base.endsWith "/" = true
  · obtain ⟨pre, hpre⟩ : ['/'] <:+ base.toList := by
      simpa [← String.endsWith_toSlice] using hslash
    have hjoin : join base q = base ++ q := by simp [join, hq, hslash]
    refine ⟨?_, by rw [hjoin, isAbsolute_append hempty]⟩
    rw [hjoin, names, names, names, String.toList_append, ← hpre, List.append_assoc,
      List.singleton_append, namesOf_append_slash, namesOf_append_slash, namesOf_nil,
      List.append_nil]
  · have hjoin : join base q = base ++ "/" ++ q := by simp [join, hq, hempty, hslash]
    refine ⟨?_, by rw [hjoin, String.append_assoc, isAbsolute_append hempty]⟩
    rw [hjoin, names, names, names, String.toList_append, String.toList_append,
      List.append_assoc]
    exact namesOf_append_slash _ _

theorem climb_name {root : Bool} {acc : List String} {x : String} (hx : x ≠ "..") :
    climb root acc x = x :: acc := by
  simp [climb, hx]

theorem climb_dotdot_nil (root : Bool) : climb root [] ".." = if root then [] else [".."] := rfl

theorem climb_dotdot_dotdot (root : Bool) (acc : List String) :
    climb root (".." :: acc) ".." = ".." :: ".." :: acc := rfl

theorem climb_dotdot_cons {root : Bool} {a : String} (acc : List String) (ha : a ≠ "..") :
    climb root (a :: acc) ".." = acc := by
  simp only [climb, if_true]

theorem dotdot_mem_foldl (root : Bool) :
    ∀ (l acc : List String), ".." ∈ acc → ".." ∈ l.foldl (climb root) acc
  | [], _, h => h
  | x :: l, acc, h => by
    apply dotdot_mem_foldl root l
    by_cases hx : x = ".."
    · subst hx
      match acc, h with
      | ".." :: acc, _ => simp [climb_dotdot_dotdot]
      | a :: acc, h =>
        by_cases ha : a = ".."
        · subst ha
          simp [climb_dotdot_dotdot]
        · rw [climb_dotdot_cons acc ha]
          exact (List.mem_cons.1 h).resolve_left (Ne.symm ha)
    · rw [climb_name hx]
      exact List.mem_cons_of_mem _ h

theorem foldl_climb_append (root : Bool) (base : List String) :
    ∀ (l acc : List String), ".." ∉ acc → ".." ∉ l.foldl (climb false) acc →
      l.foldl (climb root) (acc ++ base) = l.foldl (climb false) acc ++ base
  | [], _, _, _ => rfl
  | x :: l, acc, hacc, h => by
    by_cases hx : x = ".."
    · subst hx
      cases acc with
      | nil =>
        -- climbing out of the start leaves a `..` behind, which never goes away
        exact absurd (dotdot_mem_foldl false l _ (by simp [climb_dotdot_nil])) h
      | cons a acc =>
        have ha : a ≠ ".." := fun h => hacc (h ▸ List.mem_cons_self)
        rw [List.foldl_cons, climb_dotdot_cons _ ha] at h
        rw [List.foldl_cons, List.foldl_cons, List.cons_append, climb_dotdot_cons _ ha,
          climb_dotdot_cons _ ha]
        exact foldl_climb_append root base l acc (fun h => hacc (List.mem_cons_of_mem _ h)) h
    · rw [List.foldl_cons, climb_name hx] at h
      rw [List.foldl_cons, List.foldl_cons, climb_name hx, climb_name hx, ← List.cons_append]
      exact foldl_climb_append root base l (x :: acc) (by simp [Ne.symm hx, hacc]) h

theorem lexical_join {base q : String} (hq : isAbsolute q = false) :
    lexical (join base q) =
      ((lexical base).1, (names q).foldl (climb (lexical base).1) (lexical base).2) := by
  obtain ⟨hnames, habs⟩ := join_of_relative base hq
  simp only [lexical, hnames, habs, List.foldl_append]

theorem strictlyBelow_join {base q : String} (hq : Descends q) : StrictlyBelow base (join base q) := by
  obtain ⟨hrel, hne, hclimb⟩ := hq
  have hfold := foldl_climb_append (lexical base).1 (lexical base).2 (names q) [] (by simp)
    (by simpa [lexical, hrel] using hclimb)
  rw [StrictlyBelow, lexical_join hrel]
  refine ⟨rfl, (lexical q).2, hne, hclimb, ?_⟩
  simpa [lexical, hrel] using hfold

theorem isAbsolute_dot : isAbsolute "." = false := by
  simp [isAbsolute]

theorem lexical_dot : lexical "." = (false, []) := by
  have hnames : names "." = [] := rfl
  simp [lexical, isAbsolute_dot, hnames]

theorem not_strictlyBelow_dot_of_absolute {p : String} (hp : isAbsolute p = true) :
    ¬StrictlyBelow "." p := by
  intro h
  have hroot := h.1
  rw [lexical_dot] at hroot
  simp [lexical, hp] at hroot

theorem join_of_absolute (base : String) {q : String} (hq : isAbsolute q = true) :
    join base q = q := by
  simp [join, hq]

theorem strictlyBelow_dot_join {q : String} : StrictlyBelow "." (join "." q) ↔ Descends q := by
  refine ⟨fun h => ?_, strictlyBelow_join⟩
  cases hq : isAbsolute q
  · rw [StrictlyBelow, lexical_join hq, lexical_dot] at h
    obtain ⟨-, rest, hne, hclimb, heq⟩ := h
    simp only [List.append_nil] at heq
    refine ⟨hq, ?_, ?_⟩ <;> simp only [lexical, hq] <;> rw [heq] <;> assumption
  · rw [join_of_absolute "." hq] at h
    exact absurd h (not_strictlyBelow_dot_of_absolute hq)

theorem join_empty_unslashed {base : String} (hbase : base ≠ "")
    (hslash : ¬['/'] <:+ base.toList) : join base "" = base ++ "/" := by
  simp [join, isAbsolute, hbase, ← String.endsWith_toSlice, hslash]

theorem join_empty_slashed {base : String} (hslash : ['/'] <:+ base.toList) :
    join base "" = base := by
  simp [join, isAbsolute, ← String.endsWith_toSlice, hslash]

theorem lexical_join_join (base : String) {a b : String} (ha : isAbsolute a = false)
    (hb : isAbsolute b = false) :
    lexical (join (join base a) b) = lexical (join base (join a b)) := by
  obtain ⟨hab, habs⟩ := join_of_relative a hb
  obtain ⟨h1, h1abs⟩ := join_of_relative (join base a) hb
  obtain ⟨h2, h2abs⟩ := join_of_relative base ha
  obtain ⟨h3, h3abs⟩ := join_of_relative base (habs.trans ha)
  simp only [lexical, h1, h1abs, h2, h2abs, h3, h3abs, hab, List.append_assoc]

theorem strictlyBelow_congr {base p p' : String} (h : lexical p = lexical p') :
    StrictlyBelow base p ↔ StrictlyBelow base p' := by
  simp [StrictlyBelow, h]

theorem relative_of_descends_join {a b : String} (h : Descends (join a b)) :
    isAbsolute b = false := by
  cases hb : isAbsolute b
  · rfl
  · have h1 := h.1
    rw [join_of_absolute a hb, hb] at h1
    cases h1

end Provisioner.Path

namespace Provisioner.Helm

theorem cache_paths_below {s : Settings} {repo chart : String} (hrepo : Path.Descends repo)
    (hchart : Path.Descends (Path.join repo chart)) :
    Path.StrictlyBelow s.cacheDir (pullDir s repo) ∧
      Path.StrictlyBelow s.cacheDir (chartDir s repo chart) := by
  have hrel := Path.relative_of_descends_join hchart
  refine ⟨Path.strictlyBelow_join hrepo, ?_⟩
  rw [chartDir, pullDir, Path.strictlyBelow_congr (Path.lexical_join_join _ hrepo.1 hrel)]
  exact Path.strictlyBelow_join hchart

theorem descends_of_below_dot {binary : String} {context : Option String} {repo chart : String}
    (h : Path.StrictlyBelow "." (pullDir ⟨binary, context, "."⟩ repo) ∧
      Path.StrictlyBelow "." (chartDir ⟨binary, context, "."⟩ repo chart)) :
    Path.Descends repo ∧ Path.Descends (Path.join repo chart) := by
  have hrepo := Path.strictlyBelow_dot_join.1 h.1
  refine ⟨hrepo, ?_⟩
  have hdir := h.2
  rw [chartDir, pullDir] at hdir
  cases hchart : Path.isAbsolute chart
  · rw [Path.strictlyBelow_congr (Path.lexical_join_join "." hrepo.1 hchart)] at hdir
    exact Path.strictlyBelow_dot_join.1 hdir
  · rw [Path.join_of_absolute _ hchart] at hdir
    exact absurd hdir (Path.not_strictlyBelow_dot_of_absolute hchart)

/-- What locating `repo/chart` after the calls `log` leaves, step by step: removing the chart's
directory goes on when it succeeds or finds nothing, creating the repository's directory when
it succeeds, and the result is the chart's directory exactly when helm's pull also exited with
status zero. -/
def LocateSteps (s : Settings) (resp : HostResponder) (repo chart : String)
    (log : List HostCall) : Except ReleaseError String × List HostCall → Prop
  | (res, log') =>
    let dir := chartDir s repo chart
    let dest := pullDir s repo
    let pullArgs := pullArgs s.kubeContext (repo ++ "/" ++ chart) dest
    let removed := resp.removeDirAll log dir = .ok () ∨ resp.removeDirAll log dir = .error .noEntry
    let created := resp.createDirAll (log ++ [.removeDirAll dir]) dest = .ok ()
    let pulled := ∃ child out,
      resp.run (log ++ [.removeDirAll dir, .createDirAll dest]) s.binary pullArgs none =
        .ok child ∧ child.waited = .ok out ∧ out.status = 0
    ∃ calls, calls <+: locateCalls s repo chart ∧ log' = log ++ calls ∧
      (HostCall.createDirAll dest ∈ calls ↔ removed) ∧
      (HostCall.run s.binary pullArgs none ∈ calls ↔ removed ∧ created) ∧
      ∀ p, res = .ok p ↔ removed ∧ created ∧ pulled ∧ p = dir

set_option mvcgen.warning false in
open Std.Do in
theorem locateChart_steps (s : Settings) (resp : HostResponder) (scope : Scope)
    (repo chart : String) (log : List HostCall) :
    LocateSteps s resp repo chart log (((helmOn s resp).locate scope repo chart).run log) := by
  apply StateM.of_wp_run_eq rfl
  mvcgen [helmOn, packageManager, locateChart, recordingHost]
  all_goals simp_all +zetaDelta [LocateSteps, locateCalls, chartDir]
  all_goals intro p; split <;> simp_all [eq_comm]


/-- Locating a chart removes `cacheDir/repo/chart`, creates `cacheDir/repo`, has helm unpack into
it, and answers `cacheDir/repo/chart`, each step only if the ones before succeeded. These paths
lie strictly below the cache, once resolved lexically, when the repository name and the
repository name joined with the chart name descend; and names for which they lie strictly below
every cache descend. -/
theorem locateChart_stays_in_cache (s : Settings) (resp : HostResponder) (scope : Scope)
    (log : List HostCall) (repo chart : String) :
    LocateSteps s resp repo chart log (((helmOn s resp).locate scope repo chart).run log) ∧
    (Path.Descends repo ∧ Path.Descends (Path.join repo chart) →
      Path.StrictlyBelow s.cacheDir (pullDir s repo) ∧
        Path.StrictlyBelow s.cacheDir (chartDir s repo chart)) ∧
    ((∀ cacheDir,
        Path.StrictlyBelow cacheDir (pullDir ⟨s.binary, s.kubeContext, cacheDir⟩ repo) ∧
          Path.StrictlyBelow cacheDir (chartDir ⟨s.binary, s.kubeContext, cacheDir⟩ repo chart)) →
      Path.Descends repo ∧ Path.Descends (Path.join repo chart)) :=
  ⟨locateChart_steps s resp scope repo chart log, fun h => cache_paths_below h.1 h.2,
    fun h => descends_of_below_dot (h ".")⟩

theorem locateChart_stays_in_cache_grafana :
    (Path.Descends "grafana" ∧ Path.Descends (Path.join "grafana" "grafana")) ∧
      Path.StrictlyBelow "cache" (pullDir ⟨"helm", none, "cache"⟩ "grafana") ∧
      Path.StrictlyBelow "cache" (chartDir ⟨"helm", none, "cache"⟩ "grafana" "grafana") := by
  have hrepo : Path.Descends "grafana" := ⟨by simp [Path.isAbsolute], by decide, by decide⟩
  have hjoin : Path.join "grafana" "grafana" = "grafana/grafana" := by
    simp [Path.join, Path.isAbsolute, ← String.endsWith_toSlice]
    decide
  have hchart : Path.Descends (Path.join "grafana" "grafana") := by
    rw [hjoin]
    exact ⟨by simp [Path.isAbsolute], by decide, by decide⟩
  exact ⟨⟨hrepo, hchart⟩, (locateChart_stays_in_cache ⟨"helm", none, "cache"⟩ blockedCache []
    [] "grafana" "grafana").2.1 ⟨hrepo, hchart⟩⟩

def pullsEverything : HostResponder :=
  ⟨fun _ _ => .ok (), fun _ _ => .ok (), fun _ _ => .error .noEntry,
    fun _ _ _ _ => .ok ⟨.ok (), .ok ⟨0, .empty, .empty⟩⟩⟩

/-- With an empty repository and chart name, locating clears the whole cache, has helm unpack
into the cache itself and answers the cache as the chart's directory. -/
theorem locateChart_empty_names_take_cache :
    ((helmOn ⟨"helm", none, "cache"⟩ pullsEverything).locate [] "" "").run [] =
      (.ok "cache/", [HostCall.removeDirAll "cache/", HostCall.createDirAll "cache/",
        HostCall.run "helm" ["pull", "/", "--untar", "--untardir", "cache/"] none]) ∧
    ¬Path.StrictlyBelow "cache" "cache/" := by
  have hpull : pullDir ⟨"helm", none, "cache"⟩ "" = "cache/" :=
    Path.join_empty_unslashed (by decide) (by decide)
  have hchart : chartDir ⟨"helm", none, "cache"⟩ "" "" = "cache/" := by
    rw [chartDir, hpull]
    exact Path.join_empty_slashed (by decide)
  have hrun : ((helmOn ⟨"helm", none, "cache"⟩ pullsEverything).locate [] "" "").run [] =
      (.ok (chartDir ⟨"helm", none, "cache"⟩ "" ""), locateCalls ⟨"helm", none, "cache"⟩ "" "") :=
    rfl
  refine ⟨by rw [hrun, locateCalls, hchart, hpull]; rfl, ?_⟩
  rintro ⟨-, rest, hne, -, heq⟩
  have hcache : (Path.lexical "cache/").2 = (Path.lexical "cache").2 := rfl
  rw [hcache] at heq
  exact hne (by simpa using heq.symm)

end Provisioner.Helm
