import Mathlib.Data.List.Basic
import Provisioner.Peers

/-!
# Reading a topology back from its descriptor

The descriptor joins the peersets with `;` and, inside a peerset, the peer addresses with `,`.
No address holds either separator, so splitting the descriptor on `;` gives one segment per
peerset, and splitting a non-empty segment on `,` gives its addresses. An empty peerset leaves
an empty segment, which is told apart from every other segment but makes one empty peerset
look like no peerset at all: that is the only pair of count lists with the same descriptor.
-/

namespace Provisioner.Topology

theorem mem_intercalate_singleton {c x : Char} :
    ∀ {ls : List (List Char)}, c ∈ [x].intercalate ls → c = x ∨ ∃ l ∈ ls, c ∈ l
  | [], h => by simp at h
  | [l], h => Or.inr ⟨l, by simp, by simpa using h⟩
  | l :: l' :: ls, h => by
    simp only [List.intercalate_cons_cons, List.mem_append, List.mem_singleton] at h
    rcases h with (h | h) | h
    · exact Or.inr ⟨l, by simp, h⟩
    · exact Or.inl h
    · rcases mem_intercalate_singleton h with h | ⟨m, hm, hc⟩
      · exact Or.inl h
      · exact Or.inr ⟨m, List.mem_cons_of_mem _ hm, hc⟩

/-! ### Addresses hold no separator -/

theorem separator_not_mem_toDigits {n : Nat} {c : Char} (h : c ∈ Nat.toDigits 10 n) :
    c ≠ ';' ∧ c ≠ ',' := by
  have hd := Nat.isDigit_of_mem_toDigits (by decide) (by decide) h
  constructor <;> rintro rfl <;> revert hd <;> decide

theorem separator_not_mem_of_all {l : List Char}
    (hl : (l.all fun c => c != ';' && c != ',') = true) {c : Char} (h : c ∈ l) :
    c ≠ ';' ∧ c ≠ ',' := by
  simpa using List.all_eq_true.1 hl c h

theorem separator_not_mem_address {port i p : Nat} {c : Char}
    (h : c ∈ (serviceName i p ++ ":" ++ toString port).toList) : c ≠ ';' ∧ c ≠ ',' := by
  simp only [serviceName, String.toList_append, Nat.toString_eq_repr, Nat.toList_repr,
    List.mem_append] at h
  rcases h with ((((( h | h) | h) | h) | h) | h) | h
  · exact separator_not_mem_of_all (by decide) h
  · exact separator_not_mem_toDigits h
  · exact separator_not_mem_of_all (by decide) h
  · exact separator_not_mem_toDigits h
  · exact separator_not_mem_of_all (by decide) h
  · exact separator_not_mem_of_all (by decide) h
  · exact separator_not_mem_toDigits h

theorem address_eq (port i p : Nat) : serviceName i p ++ ":" ++ toString port =
    "peer" ++ toString p ++ "-peerset" ++ toString i ++ "-service:" ++ toString port := by
  simp [serviceName, String.append_assoc]

theorem address_toList_ne_nil (port i p : Nat) :
    (serviceName i p ++ ":" ++ toString port).toList ≠ [] := by
  simp [serviceName]

/-! ### Splitting the descriptor -/

theorem descriptor_toList (t : Topology) (port : Nat) :
    (t.descriptor port).toList =
      [';'].intercalate (t.peersets.map fun p => (",".intercalate (addresses port p)).toList) := by
  simp [descriptor, List.map_map, Function.comp_def]

theorem segment_toList (port : Nat) (p : Peerset) :
    (",".intercalate (addresses port p)).toList =
      [','].intercalate ((addresses port p).map String.toList) := by
  simp

theorem semicolon_not_mem_segment (port : Nat) (p : Peerset) :
    ';' ∉ (",".intercalate (addresses port p)).toList := by
  intro h
  rw [segment_toList] at h
  rcases mem_intercalate_singleton h with h | ⟨l, hl, hc⟩
  · exact absurd h (by decide)
  · simp only [addresses, List.map_map, List.mem_map, List.mem_range, Function.comp_apply] at hl
    obtain ⟨q, -, rfl⟩ := hl
    exact (separator_not_mem_address hc).1 rfl

theorem splitOn_descriptor (t : Topology) (port : Nat) (h : t.peersets ≠ []) :
    (t.descriptor port).toList.splitOn ';' =
      t.peersets.map fun p => (",".intercalate (addresses port p)).toList := by
  rw [descriptor_toList]
  apply List.splitOn_intercalate
  · simp only [List.mem_map]
    rintro l ⟨p, -, rfl⟩
    exact semicolon_not_mem_segment port p
  · simpa using h

theorem splitOn_segment (port : Nat) (p : Peerset) (h : p.peers ≠ 0) :
    (",".intercalate (addresses port p)).toList.splitOn ',' =
      (addresses port p).map String.toList := by
  rw [segment_toList]
  apply List.splitOn_intercalate
  · simp only [addresses, List.map_map, List.mem_map, List.mem_range, Function.comp_apply]
    rintro l ⟨q, -, rfl⟩ hc
    exact (separator_not_mem_address hc).2 rfl
  · simpa [addresses] using h

theorem segment_eq_nil_iff (port : Nat) (p : Peerset) :
    (",".intercalate (addresses port p)).toList = [] ↔ p.peers = 0 := by
  obtain ⟨i, n⟩ := p
  cases n with
  | zero => simp [addresses]
  | succ n =>
    rw [segment_toList]
    simp only [addresses, List.range_succ_eq_map, List.map_cons, List.map_map]
    obtain ⟨c, cs, hc⟩ := List.exists_cons_of_ne_nil (address_toList_ne_nil port i 0)
    rw [hc, List.intercalate_cons_cons_left]
    simp

/-! ### The segments of a topology built from counts -/

theorem length_numbered (start : Nat) (cs : List Nat) :
    (numbered start cs).length = cs.length := by
  induction cs generalizing start with
  | nil => rfl
  | cons c cs ih => simp [numbered, ih]

theorem getElem?_numbered (start : Nat) (cs : List Nat) (i : Nat) :
    (numbered start cs)[i]? = cs[i]?.map (Peerset.mk (start + i)) := by
  induction cs generalizing start i with
  | nil => rfl
  | cons c cs ih =>
    cases i with
    | zero => simp [numbered]
    | succ i => simp [numbered, ih, Nat.add_right_comm, Nat.add_assoc]

theorem peersets_ofCounts_ne_nil {counts : List Nat} (h : counts ≠ []) :
    (ofCounts counts).peersets ≠ [] := by
  rw [← List.length_pos_iff] at h ⊢
  simpa [ofCounts, length_numbered] using h

theorem descriptor_segments (counts : List Nat) (hc : counts ≠ []) (port : Nat) :
    let segments := ((ofCounts counts).descriptor port).toList.splitOn ';'
    segments.length = counts.length ∧
    ∀ (i n : Nat), counts[i]? = some n → ∃ seg, segments[i]? = some seg ∧ (seg = [] ↔ n = 0) ∧
      (n ≠ 0 → (seg.splitOn ',').map String.ofList = (List.range n).map fun p =>
        "peer" ++ toString p ++ "-peerset" ++ toString i ++ "-service:" ++ toString port) := by
  have hsplit := splitOn_descriptor (ofCounts counts) port (peersets_ofCounts_ne_nil hc)
  intro segments
  refine ⟨by simp [segments, hsplit, ofCounts, length_numbered], fun i n hn => ?_⟩
  refine ⟨(",".intercalate (addresses port ⟨i, n⟩)).toList, ?_, segment_eq_nil_iff port _,
    fun h => ?_⟩
  · simp [segments, hsplit, ofCounts, getElem?_numbered, hn]
  · rw [splitOn_segment port _ h]
    simp only [addresses, List.map_map, Function.comp_def, String.ofList_toList, address_eq]

/-! ### Different counts, different descriptors -/

theorem peers_eq_of_segment_eq {port i n m : Nat}
    (h : (",".intercalate (addresses port ⟨i, n⟩)).toList =
      (",".intercalate (addresses port ⟨i, m⟩)).toList) : n = m := by
  by_cases hn : n = 0
  · have hm := (segment_eq_nil_iff port ⟨i, m⟩).1 (h ▸ (segment_eq_nil_iff port ⟨i, n⟩).2 hn)
    simp only at hm
    omega
  · have hm : m ≠ 0 := fun hm =>
      hn ((segment_eq_nil_iff port ⟨i, n⟩).1 (h.trans ((segment_eq_nil_iff port ⟨i, m⟩).2 hm)))
    have hlen : ((",".intercalate (addresses port ⟨i, n⟩)).toList.splitOn ',').length =
        ((",".intercalate (addresses port ⟨i, m⟩)).toList.splitOn ',').length := by
      rw [h]
    rw [splitOn_segment port ⟨i, n⟩ hn, splitOn_segment port ⟨i, m⟩ hm] at hlen
    simpa [addresses] using hlen

theorem descriptor_injective {c1 c2 : List Nat} (h1 : c1 ≠ []) (h2 : c2 ≠ []) {port : Nat}
    (h : (ofCounts c1).descriptor port = (ofCounts c2).descriptor port) : c1 = c2 := by
  have hs := congrArg (fun s : String => s.toList.splitOn ';') h
  simp only [splitOn_descriptor _ port (peersets_ofCounts_ne_nil h1),
    splitOn_descriptor _ port (peersets_ofCounts_ne_nil h2)] at hs
  apply List.ext_getElem?
  intro i
  have hi := congrArg (·[i]?) hs
  simp only [List.getElem?_map, ofCounts, getElem?_numbered, Option.map_map] at hi
  rcases e1 : c1[i]? with _ | n <;> rcases e2 : c2[i]? with _ | m <;>
    simp only [e1, e2, Option.map_none, Option.map_some, reduceCtorEq, Option.some.injEq,
      Function.comp_apply] at hi ⊢
  exact peers_eq_of_segment_eq hi

theorem descriptor_eq_empty_iff (counts : List Nat) (port : Nat) :
    (ofCounts counts).descriptor port = "" ↔ counts = [] ∨ counts = [0] := by
  constructor
  · intro h
    by_cases hc : counts = []
    · exact Or.inl hc
    · have hs := splitOn_descriptor (ofCounts counts) port (peersets_ofCounts_ne_nil hc)
      rw [h] at hs
      match counts, hs with
      | [n], hs =>
        simp only [String.toList_empty, List.splitOn_nil, ofCounts, numbered, List.map_cons,
          List.map_nil, List.cons.injEq, and_true] at hs
        have hn : n = 0 := (segment_eq_nil_iff port ⟨0, n⟩).1 hs.symm
        exact Or.inr (by rw [hn])
      | [], _ => exact absurd rfl hc
      | _ :: _ :: _, hs => simp [ofCounts, numbered] at hs
  · rintro (rfl | rfl) <;> rfl

theorem descriptor_eq_iff (c1 c2 : List Nat) (port : Nat) (hne : c1 ≠ c2) :
    (ofCounts c1).descriptor port = (ofCounts c2).descriptor port ↔
      (c1 = [] ∧ c2 = [0]) ∨ (c1 = [0] ∧ c2 = []) := by
  constructor
  · intro h
    by_cases h1 : c1 = []
    · subst h1
      have := (descriptor_eq_empty_iff c2 port).1 (h.symm.trans rfl)
      exact Or.inl ⟨rfl, this.resolve_left (Ne.symm hne)⟩
    · by_cases h2 : c2 = []
      · subst h2
        exact Or.inr ⟨((descriptor_eq_empty_iff c1 port).1 h).resolve_left h1, rfl⟩
      · exact absurd (descriptor_injective h1 h2 h) hne
  · rintro (⟨rfl, rfl⟩ | ⟨rfl, rfl⟩) <;> rfl

/-- The descriptor lists, for every peerset in order, the addresses of its peers; so two
different count lists have different descriptors, except that no peerset and one empty
peerset both give the empty text. -/
theorem descriptor_decodes (port : Nat) :
    (∀ counts : List Nat, counts ≠ [] →
      let segments := ((ofCounts counts).descriptor port).toList.splitOn ';'
      segments.length = counts.length ∧
      ∀ (i n : Nat), counts[i]? = some n → ∃ seg, segments[i]? = some seg ∧ (seg = [] ↔ n = 0) ∧
        (n ≠ 0 → (seg.splitOn ',').map String.ofList = (List.range n).map fun p =>
          "peer" ++ toString p ++ "-peerset" ++ toString i ++ "-service:" ++ toString port)) ∧
    (∀ c1 c2 : List Nat, c1 ≠ c2 →
      ((ofCounts c1).descriptor port = (ofCounts c2).descriptor port ↔
        (c1 = [] ∧ c2 = [0]) ∨ (c1 = [0] ∧ c2 = []))) :=
  ⟨fun counts hc => descriptor_segments counts hc port,
    fun c1 c2 hne => descriptor_eq_iff c1 c2 port hne⟩

theorem descriptor_decodes_example :
    ([1, 0, 2] : List Nat) ≠ [] ∧
      (((ofCounts [1, 0, 2]).descriptor 8080).toList.splitOn ';').length = 3 ∧
    ([] : List Nat) ≠ [0] ∧ (ofCounts []).descriptor 8080 = (ofCounts [0]).descriptor 8080 :=
  ⟨by decide, ((descriptor_decodes 8080).1 [1, 0, 2] (by decide)).1, by decide,
    ((descriptor_decodes 8080).2 [] [0] (by decide)).2 (Or.inl ⟨rfl, rfl⟩)⟩

end Provisioner.Topology
