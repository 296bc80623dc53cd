import Mathlib
import Provisioner.Labels

/-!
# Looking up labels

Keys compare by code point, which agrees with the order of their UTF-8 bytes
(`lt_iff_keyBytes_lt`). Each key occurs once, so a lookup finds exactly its entry
(`mem_iff_get?`), and extending a map is a union in which the new entries win (`get?_extend`).
-/

namespace Provisioner

def keyBytes (k : String) : List UInt8 := k.toByteArray.data.toList

theorem keyBytes_eq_flatMap (k : String) :
    keyBytes k = k.toList.flatMap String.utf8EncodeChar := by
  rw [keyBytes, ← String.utf8Encode_toList, List.utf8Encode, List.toList_data_toByteArray]

theorem Char.val_toNat_lt (d : Char) : d.val.toNat < 0x110000 := by
  have valid := d.valid
  simp only [UInt32.isValidChar] at valid
  omega

private theorem base64_digits (v : Nat) :
    v = 262144 * (v / 262144) + 4096 * (v / 4096 % 64) + 64 * (v / 64 % 64) + v % 64 := by
  omega

open String in
theorem utf8EncodeChar_append_lt {c d : Char} (h : c < d) (xs ys : List UInt8) :
    utf8EncodeChar c ++ xs < utf8EncodeChar d ++ ys := by
  have hv : c.val.toNat < d.val.toNat := h
  have hd := Char.val_toNat_lt d
  have hc64 := base64_digits c.val.toNat
  have hd64 := base64_digits d.val.toNat
  -- a code point has at most 21 bits, so the lead digit of a four-byte form is below 8
  have hc8 : c.val.toNat / 262144 % 8 = c.val.toNat / 262144 := by omega
  have hd8 : d.val.toNat / 262144 % 8 = d.val.toNat / 262144 := by omega
  -- one case per pair of encoding lengths; each byte is below 256, so it reads back exactly
  simp only [utf8EncodeChar]
  split_ifs <;> simp (disch := simp only [UInt8.size]; omega) only [List.cons_append,
    List.nil_append, List.cons_lt_cons_iff, UInt8.lt_iff_toNat_lt, UInt8.toNat_ofNat_of_lt',
    ← UInt8.toNat_inj] <;> omega

open String in
theorem flatMap_utf8EncodeChar_lt {l₁ l₂ : List Char} (h : l₁ < l₂) :
    l₁.flatMap utf8EncodeChar < l₂.flatMap utf8EncodeChar := by
  induction h with
  | @nil c l =>
    obtain ⟨b, bs, hb⟩ := List.exists_cons_of_ne_nil (utf8EncodeChar_ne_nil (c := c))
    simp only [List.flatMap_nil, List.flatMap_cons, hb, List.cons_append]
    exact List.nil_lt_cons b _
  | rel h => exact utf8EncodeChar_append_lt h _ _
  | cons h ih =>
    simp only [List.flatMap_cons]
    exact List.append_left_lt ih

theorem lt_iff_keyBytes_lt {s t : String} : s < t ↔ keyBytes s < keyBytes t := by
  rw [keyBytes_eq_flatMap, keyBytes_eq_flatMap]
  refine ⟨flatMap_utf8EncodeChar_lt, fun h => ?_⟩
  rcases lt_trichotomy s t with hlt | rfl | hgt
  · exact hlt
  · exact absurd h (List.lt_irrefl _)
  · exact absurd h (List.lt_asymm (flatMap_utf8EncodeChar_lt hgt))

theorem ascending_iff_keyBytes {l : List (String × String)} :
    Ascending l ↔ l.Pairwise fun a b => keyBytes a.1 < keyBytes b.1 := by
  simp only [Ascending, lt_iff_keyBytes_lt]

/-! ### Lookups in ascending entries -/

theorem lookup_pair_cons (k' v' : String) (rest : List (String × String)) (k : String) :
    ((k', v') :: rest).lookup k = if k = k' then some v' else rest.lookup k := by
  simp only [List.lookup_cons]
  split <;> simp_all

theorem mem_of_lookup {l : List (String × String)} {k v : String} (h : l.lookup k = some v) :
    (k, v) ∈ l := by
  obtain ⟨l₁, l₂, rfl, -⟩ := List.lookup_eq_some_iff.1 h
  simp

theorem lookup_eq_none_of_lt {l : List (String × String)} {k : String}
    (h : ∀ p ∈ l, k < p.1) : l.lookup k = none := by
  simp only [List.lookup_eq_none_iff, bne_iff_ne, ne_eq]
  exact fun p hp heq => lt_irrefl k (heq ▸ h p hp)

theorem lookup_of_mem {l : List (String × String)} (hl : Ascending l) {k v : String}
    (h : (k, v) ∈ l) : l.lookup k = some v := by
  induction l with
  | nil => cases h
  | cons q l ih =>
    obtain ⟨hq, hs⟩ := List.pairwise_cons.1 hl
    rw [← Prod.mk.eta (p := q), lookup_pair_cons]
    rcases List.mem_cons.1 h with rfl | h
    · simp
    · rw [if_neg (ne_of_gt (hq _ h)), ih hs h]

theorem lookup_insertEntry (l : List (String × String)) (k v k' : String) :
    (LabelMap.insertEntry l k v).lookup k' = if k' = k then some v else l.lookup k' := by
  induction l with
  | nil => simp [LabelMap.insertEntry]
  | cons q l ih =>
    obtain ⟨a, b⟩ := q
    simp only [LabelMap.insertEntry]
    split
    · simp only [lookup_pair_cons]
    · split
      next heq =>
        subst heq
        by_cases hk : k' = k <;> simp [lookup_pair_cons, hk]
      next hne =>
        by_cases hk : k' = k
        · subst hk
          simp [lookup_pair_cons, hne, ih]
        · simp [lookup_pair_cons, hk, ih]

namespace LabelMap

theorem mem_def {m : LabelMap} {e : String × String} : e ∈ m ↔ e ∈ m.entries := Iff.rfl

@[simp] theorem entries_empty : (∅ : LabelMap).entries = [] := rfl

theorem eq_empty_iff {m : LabelMap} : m = ∅ ↔ m.entries = [] :=
  ⟨fun h => h ▸ rfl, fun h => LabelMap.ext h⟩

theorem isEmpty_entries_iff {m : LabelMap} : m.entries.isEmpty = true ↔ m = ∅ := by
  rw [List.isEmpty_iff, eq_empty_iff]

theorem mem_iff_get? (m : LabelMap) {k v : String} : (k, v) ∈ m ↔ m.get? k = some v :=
  ⟨lookup_of_mem m.ascending, mem_of_lookup⟩

theorem get?_insert (m : LabelMap) (k v k' : String) :
    (m.insert k v).get? k' = if k' = k then some v else m.get? k' :=
  lookup_insertEntry m.entries k v k'

theorem extend_cons (m : LabelMap) (k v : String) (extra : List (String × String)) :
    m.extend ((k, v) :: extra) = (m.insert k v).extend extra := rfl

theorem get?_extend_of_ascending (m : LabelMap) {extra : List (String × String)}
    (he : Ascending extra) (k : String) :
    (m.extend extra).get? k = (extra.lookup k).or (m.get? k) := by
  induction extra generalizing m with
  | nil => rfl
  | cons e extra ih =>
    obtain ⟨a, b⟩ := e
    obtain ⟨ha, hs⟩ := List.pairwise_cons.1 he
    rw [extend_cons, ih _ hs, get?_insert, lookup_pair_cons]
    by_cases hk : k = a
    · subst hk
      simp [lookup_eq_none_of_lt ha]
    · simp [hk]

/-- Extending a map by another takes the other's value of every key it has: a union in which
the other map wins. -/
theorem get?_extend (m extra : LabelMap) (k : String) :
    (m.extend extra.entries).get? k = (extra.get? k).or (m.get? k) :=
  get?_extend_of_ascending m extra.ascending k

def Submap (a b : LabelMap) : Prop := ∀ e ∈ a, b.get? e.1 = some e.2

instance (a b : LabelMap) : Decidable (a.Submap b) :=
  inferInstanceAs (Decidable (∀ e ∈ a.entries, b.get? e.1 = some e.2))

end LabelMap

end Provisioner
