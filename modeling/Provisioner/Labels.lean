/-! Label maps, as Kubernetes objects carry them: keys in ascending order, each key once. A map
carries the proof of its order, which setting a label keeps. Here too are the labels of the
harness pods, of the project's objects, the label that marks objects this tool manages, and
which entries of a selector a set of labels fails. -/

namespace Provisioner

def Ascending (entries : List (String × String)) : Prop :=
  entries.Pairwise fun a b => a.1 < b.1

@[ext]
structure LabelMap where
  entries : List (String × String)
  ascending : Ascending entries

namespace LabelMap

instance : EmptyCollection LabelMap := ⟨⟨[], List.Pairwise.nil⟩⟩

instance : Membership (String × String) LabelMap := ⟨fun m e => e ∈ m.entries⟩

instance (e : String × String) (m : LabelMap) : Decidable (e ∈ m) :=
  inferInstanceAs (Decidable (e ∈ m.entries))

instance : DecidableEq LabelMap := fun a b =>
  if h : a.entries = b.entries then isTrue (LabelMap.ext h)
  else isFalse fun e => h (congrArg entries e)

def insertEntry : List (String × String) → String → String → List (String × String)
  | [], k, v => [(k, v)]
  | (k', v') :: rest, k, v =>
    if k < k' then (k, v) :: (k', v') :: rest
    else if k = k' then (k, v) :: rest
    else (k', v') :: insertEntry rest k v

theorem mem_insertEntry {entries : List (String × String)} {k v : String} {p : String × String}
    (h : p ∈ insertEntry entries k v) : p = (k, v) ∨ p ∈ entries := by
  induction entries with
  | nil => exact .inl (List.mem_singleton.1 h)
  | cons q rest ih =>
    unfold insertEntry at h
    split at h
    · exact List.mem_cons.1 h
    · split at h
      · rcases List.mem_cons.1 h with rfl | h
        · exact .inl rfl
        · exact .inr (List.mem_cons_of_mem _ h)
      · rcases List.mem_cons.1 h with rfl | h
        · exact .inr List.mem_cons_self
        · exact (ih h).imp_right (List.mem_cons_of_mem _)

theorem ascending_insertEntry {entries : List (String × String)} (h : Ascending entries)
    (k v : String) : Ascending (insertEntry entries k v) := by
  induction entries with
  | nil => exact List.pairwise_singleton _ _
  | cons q rest ih =>
    obtain ⟨hq, hs⟩ := List.pairwise_cons.1 h
    unfold insertEntry
    split
    next hlt =>
      refine List.pairwise_cons.2 ⟨fun p hp => ?_, h⟩
      rcases List.mem_cons.1 hp with rfl | hp
      · exact hlt
      · exact String.lt_trans hlt (hq p hp)
    next hnlt =>
      split
      next heq =>
        subst heq
        exact List.pairwise_cons.2 ⟨hq, hs⟩
      next hne =>
        have hgt : q.1 < k :=
          String.not_le.1 fun hle => hne (String.le_antisymm hle (String.not_lt.1 hnlt))
        refine List.pairwise_cons.2 ⟨fun p hp => ?_, ih hs⟩
        rcases mem_insertEntry hp with rfl | hp
        · exact hgt
        · exact hq p hp

def insert (m : LabelMap) (k v : String) : LabelMap :=
  ⟨insertEntry m.entries k v, ascending_insertEntry m.ascending k v⟩

/-- Sets every label of `extra` in order, so a later entry wins. -/
def extend (m : LabelMap) (extra : List (String × String)) : LabelMap :=
  extra.foldl (fun acc (k, v) => acc.insert k v) m

def ofList (entries : List (String × String)) : LabelMap := extend ∅ entries

def get? (m : LabelMap) (k : String) : Option String := m.entries.lookup k

end LabelMap

def harnessLabel : String × String := ("app.name", "performanceTest")

def projectLabel : String × String := ("project", "ucac")

def harnessLabels : LabelMap := LabelMap.ofList [harnessLabel]

def projectLabels : LabelMap := LabelMap.ofList [projectLabel]

def managedLabels : LabelMap := LabelMap.ofList [("managed-by", "ucac")]

/-- The managed mark together with the caller's labels; the caller's value of a key wins. The
result is optional, as object labels are, and always present. -/
def managedWith (labels : LabelMap) : Option LabelMap :=
  some (managedLabels.extend labels.entries)

/-- The entries `k=v` of a selector, in its key order, that the labels do not carry. -/
def unmatched (selector labels : LabelMap) : List String :=
  (selector.entries.filter fun (k, v) => labels.get? k != some v).map fun (k, v) => k ++ "=" ++ v

end Provisioner
