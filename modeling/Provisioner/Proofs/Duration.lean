import Mathlib.Data.List.Basic
import Provisioner.Harness.Duration

/-!
# Test durations are exactly the ISO-8601 durations without sign

`Form` is the grammar `P (nD)? (T (nH)? (nM)? (nS)?)?` with at least one part and a part after
every `T`, seconds taking up to nine fraction digits after a point or a comma. The reader does
not walk this grammar: it cuts the text at the first `T`, then for each of `H`, `M`, `S` at the
first occurrence of that letter in what is left. `parse_accepts_exactly_form` shows the two
agree on every text, and that an accepted duration keeps its trimmed text in its own case.
-/

namespace Provisioner.Duration

def Digits (v : List Char) : Prop := v ≠ [] ∧ ∀ c ∈ v, c.isDigit

def Seconds (v : List Char) : Prop :=
  Digits v ∨ ∃ whole sep frac, v = whole ++ sep :: frac ∧ Digits whole ∧
    (sep = '.' ∨ sep = ',') ∧ frac.length ≤ 9 ∧ ∀ c ∈ frac, c.isDigit

def part (unit : Char) : Option (List Char) → List Char
  | none => []
  | some v => v ++ [unit]

/-- The upper-case ISO-8601 durations without sign: days alone, or optional days, `T` and
hours, minutes and seconds, each optional but not all absent. -/
inductive Form : List Char → Prop
  | date {v : List Char} : Digits v → Form ('P' :: (v ++ ['D']))
  | time {d h m s : Option (List Char)} : (∀ v ∈ d, Digits v) → (∀ v ∈ h, Digits v) →
      (∀ v ∈ m, Digits v) → (∀ v ∈ s, Seconds v) → (h.isSome ∨ m.isSome ∨ s.isSome) →
      Form ('P' :: (part 'D' d ++ 'T' :: (part 'H' h ++ part 'M' m ++ part 'S' s)))

@[simp] theorem part_none (unit : Char) : part unit none = [] := rfl

@[simp] theorem part_some (unit : Char) (v : List Char) : part unit (some v) = v ++ [unit] := rfl

theorem isDigit_eq (c : Char) : isDigit c = c.isDigit := by
  simp [isDigit, Char.isDigit, Char.le_def]

/-! ### Cutting at the first letter -/

theorem splitFirst_append_cons {p : Char → Bool} {a b : List Char} {c : Char}
    (ha : ∀ x ∈ a, p x = false) (hc : p c = true) : splitFirst p (a ++ c :: b) = some (a, b) := by
  induction a with
  | nil => simp [splitFirst, hc]
  | cons x a ih =>
    simp only [List.mem_cons, forall_eq_or_imp] at ha
    simp [splitFirst, ha.1, ih ha.2]

theorem splitFirst_eq_none {p : Char → Bool} {a : List Char} (ha : ∀ x ∈ a, p x = false) :
    splitFirst p a = none := by
  induction a with
  | nil => rfl
  | cons x a ih =>
    simp only [List.mem_cons, forall_eq_or_imp] at ha
    simp [splitFirst, ha.1, ih ha.2]

theorem beq_eq_false_of_not_mem {l : List Char} {u : Char} (h : u ∉ l) :
    ∀ c ∈ l, (c == u) = false :=
  fun _ hc => beq_eq_false_iff_ne.2 fun he => h (he ▸ hc)

theorem eq_append_of_splitFirst {p : Char → Bool} {xs a b : List Char}
    (h : splitFirst p xs = some (a, b)) : ∃ c, p c = true ∧ xs = a ++ c :: b := by
  induction xs generalizing a with
  | nil => simp [splitFirst] at h
  | cons x xs ih =>
    by_cases hx : p x
    · simp only [splitFirst, hx, if_true, Option.some.injEq, Prod.mk.injEq] at h
      obtain ⟨rfl, rfl⟩ := h
      exact ⟨x, hx, rfl⟩
    · simp only [splitFirst, hx, Bool.false_eq_true, if_false, Option.map_eq_some_iff] at h
      obtain ⟨⟨a', b'⟩, hs, he⟩ := h
      simp only [Prod.mk.injEq] at he
      obtain ⟨rfl, rfl⟩ := he
      obtain ⟨c, hc, rfl⟩ := ih hs
      exact ⟨c, hc, rfl⟩

/-! ### Counts -/

abbrev isSep (c : Char) : Bool := c == '.' || c == ','

theorem isSep_iff {c : Char} : isSep c = true ↔ c = '.' ∨ c = ',' := by simp [isSep]

theorem isSep_of_isDigit {c : Char} (h : c.isDigit) : isSep c = false := by
  simp only [isSep, Bool.or_eq_false_iff, beq_eq_false_iff_ne, ne_eq]
  constructor <;> rintro rfl <;> revert h <;> decide

theorem digits_iff {v : List Char} : Digits v ↔ (!v.isEmpty && v.all isDigit) = true := by
  simp [Digits, isDigit_eq]

theorem not_digits_append_cons {w f : List Char} {c : Char} (hc : isSep c = true) :
    ¬Digits (w ++ c :: f) := by
  rintro ⟨-, hd⟩
  have := isSep_of_isDigit (hd c (by simp))
  simp_all

theorem splitFirst_fraction {whole frac : List Char} {sep : Char} (hw : Digits whole)
    (hs : sep = '.' ∨ sep = ',') : splitFirst isSep (whole ++ sep :: frac) = some (whole, frac) :=
  splitFirst_append_cons (fun x hx => isSep_of_isDigit (hw.2 x hx)) (isSep_iff.2 hs)

theorem isCount_false {v : List Char} : isCount v false = true ↔ Digits v := by
  cases h : splitFirst isSep v with
  | none => simp [isCount, h, Digits, isDigit_eq]
  | some wf =>
    obtain ⟨c, hc, rfl⟩ := eq_append_of_splitFirst h
    simp only [isCount, h, Bool.false_and, Bool.false_eq_true, false_iff]
    exact not_digits_append_cons hc

theorem isCount_true {v : List Char} : isCount v true = true ↔ Seconds v := by
  cases h : splitFirst isSep v with
  | none =>
    simp only [isCount, h, Seconds, ← digits_iff]
    refine ⟨Or.inl, ?_⟩
    rintro (hd | ⟨whole, sep, frac, rfl, hw, hs, -⟩)
    · exact hd
    · simp [splitFirst_fraction hw hs] at h
  | some wf =>
    obtain ⟨w, f⟩ := wf
    obtain ⟨c, hc, rfl⟩ := eq_append_of_splitFirst h
    simp only [isCount, h, Seconds, Bool.true_and, Bool.and_eq_true, Bool.not_eq_true',
      List.isEmpty_eq_false_iff, List.all_eq_true, isDigit_eq, decide_eq_true_eq]
    constructor
    · rintro ⟨⟨⟨hne, hw⟩, hl⟩, hf⟩
      exact Or.inr ⟨w, c, f, rfl, ⟨hne, hw⟩, isSep_iff.1 hc, hl, hf⟩
    · rintro (hd | ⟨whole, sep, frac, he, hw, hs, hl, hf⟩)
      · exact absurd hd (not_digits_append_cons hc)
      · rw [he, splitFirst_fraction hw hs, Option.some.injEq, Prod.mk.injEq] at h
        obtain ⟨rfl, rfl⟩ := h
        exact ⟨⟨hw, hl⟩, hf⟩

theorem seconds_of_digits {v : List Char} (hv : Digits v) : Seconds v := Or.inl hv

theorem not_mem_of_digits {v : List Char} {c : Char} (hv : Digits v) (hc : c.isDigit = false) :
    c ∉ v :=
  fun h => by simp [hv.2 c h] at hc

theorem not_mem_of_seconds {v : List Char} {c : Char} (hv : Seconds v) (hc : c.isDigit = false)
    (hs : isSep c = false) : c ∉ v := by
  rcases hv with hv | ⟨whole, sep, frac, rfl, hw, hsep, -, hf⟩
  · exact not_mem_of_digits hv hc
  · simp only [List.mem_append, List.mem_cons, not_or]
    refine ⟨not_mem_of_digits hw hc, ?_, fun h => by simp [hf c h] at hc⟩
    rintro rfl
    simp [isSep_iff.2 hsep] at hs

theorem not_mem_part {unit c : Char} {x : Option (List Char)} (hx : ∀ v ∈ x, Seconds v)
    (hu : c ≠ unit) (hc : c.isDigit = false) (hs : isSep c = false) : c ∉ part unit x := by
  cases x with
  | none => simp
  | some v => simpa [hu] using not_mem_of_seconds (hx v rfl) hc hs

/-! ### The date part and the units of the time part -/

theorem dayParts_part {d : Option (List Char)} (hd : ∀ v ∈ d, Digits v) :
    dayParts (part 'D' d) = some d.isSome.toNat := by
  cases d with
  | none => rfl
  | some v => simp [dayParts, isCount_false.2 (hd v rfl)]

theorem dayParts_eq_some {date : List Char} {k : Nat} (h : dayParts date = some k) :
    ∃ d, (∀ v ∈ d, Digits v) ∧ date = part 'D' d ∧ k = d.isSome.toNat := by
  unfold dayParts at h
  split at h
  next hempty =>
    cases h
    exact ⟨none, by simp, by simpa using hempty, rfl⟩
  next =>
    split at h
    next hdays =>
      cases h
      simp only [Bool.and_eq_true, beq_iff_eq] at hdays
      refine ⟨some date.dropLast, by simpa using isCount_false.1 hdays.2, ?_, rfl⟩
      exact (List.dropLast_append_getLast? _ hdays.1).symm
    next => cases h

theorem takeUnit_part (unit : Char) (x : Option (List Char)) (rest : List Char) (n : Nat)
    (hx : ∀ v ∈ x, isCount v (unit == 'S') = true ∧ unit ∉ v) (hr : x = none → unit ∉ rest) :
    takeUnit (some (n, part unit x ++ rest)) unit = some (n + x.isSome.toNat, rest) := by
  cases x with
  | none => simp [takeUnit, splitFirst_eq_none (beq_eq_false_of_not_mem (hr rfl))]
  | some v =>
    obtain ⟨hcount, hv⟩ := hx v rfl
    simp [takeUnit, splitFirst_append_cons (beq_eq_false_of_not_mem hv) (beq_self_eq_true unit),
      hcount]

theorem takeUnit_eq_some {unit : Char} {acc : Option (Nat × List Char)} {n' : Nat}
    {t' : List Char} (h : takeUnit acc unit = some (n', t')) :
    ∃ n t x, acc = some (n, t) ∧ (∀ v ∈ x, isCount v (unit == 'S') = true) ∧
      t = part unit x ++ t' ∧ n' = n + x.isSome.toNat := by
  cases acc with
  | none => cases h
  | some nt =>
  obtain ⟨n, t⟩ := nt
  refine ⟨n, t, ?_⟩
  simp only [takeUnit, Option.bind_some] at h
  cases hs : splitFirst (· == unit) t with
  | none =>
    simp only [hs, Option.some.injEq, Prod.mk.injEq] at h
    obtain ⟨rfl, rfl⟩ := h
    exact ⟨none, rfl, by simp, rfl, rfl⟩
  | some vt =>
    obtain ⟨v, tail⟩ := vt
    simp only [hs] at h
    split at h
    next hcount =>
      simp only [Option.some.injEq, Prod.mk.injEq] at h
      obtain ⟨rfl, rfl⟩ := h
      obtain ⟨c, hc, rfl⟩ := eq_append_of_splitFirst hs
      simp only [beq_iff_eq] at hc
      subst hc
      exact ⟨some v, rfl, by simpa using hcount, by simp, rfl⟩
    next => cases h

theorem timeParts_part {h m s : Option (List Char)} (hh : ∀ v ∈ h, Digits v)
    (hm : ∀ v ∈ m, Digits v) (hs : ∀ v ∈ s, Seconds v) (hne : h.isSome ∨ m.isSome ∨ s.isSome) :
    timeParts (part 'H' h ++ part 'M' m ++ part 'S' s) =
      some (h.isSome.toNat + m.isSome.toNat + s.isSome.toNat) := by
  have hm' : ∀ v ∈ m, Seconds v := fun v hv => seconds_of_digits (hm v hv)
  -- each letter is absent from every later part, so each cut falls at its own unit
  have eH := takeUnit_part 'H' h (part 'M' m ++ part 'S' s) 0
    (fun v hv => ⟨by simpa using isCount_false.2 (hh v hv), not_mem_of_digits (hh v hv) rfl⟩)
    (fun _ => by
      simp only [List.mem_append, not_or]
      exact ⟨not_mem_part hm' (by decide) rfl rfl, not_mem_part hs (by decide) rfl rfl⟩)
  have eM := takeUnit_part 'M' m (part 'S' s) (0 + h.isSome.toNat)
    (fun v hv => ⟨by simpa using isCount_false.2 (hm v hv), not_mem_of_digits (hm v hv) rfl⟩)
    (fun _ => not_mem_part hs (by decide) rfl rfl)
  have eS := takeUnit_part 'S' s []
    (0 + h.isSome.toNat + m.isSome.toNat)
    (fun v hv => ⟨by simpa using isCount_true.2 (hs v hv), not_mem_of_seconds (hs v hv) rfl rfl⟩)
    (fun _ => by simp)
  rw [List.append_nil] at eS
  have hne' : (part 'H' h ++ (part 'M' m ++ part 'S' s)).isEmpty = false := by
    rcases h with _ | _ <;> rcases m with _ | _ <;> rcases s with _ | _ <;> simp_all
  simp only [timeParts, List.foldl, List.append_assoc, eH, eM, eS, hne']
  simp

theorem timeParts_eq_some {time : List Char} {k : Nat} (h : timeParts time = some k) :
    ∃ hr mi se, (∀ v ∈ hr, Digits v) ∧ (∀ v ∈ mi, Digits v) ∧ (∀ v ∈ se, Seconds v) ∧
      time = part 'H' hr ++ part 'M' mi ++ part 'S' se ∧ time ≠ [] := by
  simp only [timeParts, List.foldl] at h
  split at h
  next n heq =>
    split at h
    next => cases h
    next hne =>
      obtain ⟨n2, t2, se, e2, hse, rfl, -⟩ := takeUnit_eq_some heq
      obtain ⟨n1, t1, mi, e1, hmi, rfl, -⟩ := takeUnit_eq_some e2
      obtain ⟨n0, t0, hr, e0, hhr, rfl, -⟩ := takeUnit_eq_some e1
      simp only [Option.some.injEq, Prod.mk.injEq] at e0
      obtain ⟨-, rfl⟩ := e0
      refine ⟨hr, mi, se, fun v hv => ?_, fun v hv => ?_, fun v hv => ?_, by simp, ?_⟩
      · exact isCount_false.1 (by simpa using hhr v hv)
      · exact isCount_false.1 (by simpa using hmi v hv)
      · exact isCount_true.1 (by simpa using hse v hv)
      · simpa [List.isEmpty_iff] using hne
  next => cases h

/-! ### The whole duration -/

theorem parts_of_form {u : List Char} (h : Form u) : (parts u).isSome := by
  cases h with
  | @date v hv =>
    have hsplit : splitFirst (· == 'T') (v ++ ['D']) = none :=
      splitFirst_eq_none (beq_eq_false_of_not_mem (not_mem_part (x := some v)
        (fun w hw => by cases hw; exact seconds_of_digits hv) (by decide) rfl rfl))
    have hday : dayParts (v ++ ['D']) = some 1 :=
      dayParts_part (d := some v) fun w hw => by cases hw; exact hv
    simp [parts, hsplit, hday]
  | @time d hr mi se hd hhr hmi hse hne =>
    have hsplit : splitFirst (· == 'T') (part 'D' d ++ 'T' :: (part 'H' hr ++ part 'M' mi ++
        part 'S' se)) = some (part 'D' d, part 'H' hr ++ part 'M' mi ++ part 'S' se) :=
      splitFirst_append_cons (beq_eq_false_of_not_mem (not_mem_part
        (fun w hw => seconds_of_digits (hd w hw)) (by decide) rfl rfl)) (by decide)
    have hpos : 0 < hr.isSome.toNat + mi.isSome.toNat + se.isSome.toNat := by
      rcases hne with h | h | h <;> simp only [h, Bool.toNat_true] <;> omega
    simp only [parts, hsplit, dayParts_part hd, timeParts_part hhr hmi hse hne]
    split <;> simp_all

theorem form_of_parts {u : List Char} {k : Nat} (h : parts u = some k) : Form u := by
  unfold parts at h
  split at h
  next rest =>
    cases hs : splitFirst (· == 'T') rest with
    | none =>
      simp only [hs] at h
      cases hd : dayParts rest with
      | none => simp [hd] at h
      | some n =>
        obtain ⟨x, hx, rfl, rfl⟩ := dayParts_eq_some hd
        cases x with
        | none => simp [dayParts] at h
        | some v => exact .date (hx v rfl)
    | some dt =>
      obtain ⟨date, time⟩ := dt
      obtain ⟨c, hc, rfl⟩ := eq_append_of_splitFirst hs
      simp only [beq_iff_eq] at hc
      subst hc
      simp only [hs] at h
      cases hd : dayParts date with
      | none => simp [hd] at h
      | some n =>
        cases ht : timeParts time with
        | none => simp [hd, ht] at h
        | some t =>
          obtain ⟨x, hx, rfl, -⟩ := dayParts_eq_some hd
          obtain ⟨hr, mi, se, hhr, hmi, hse, rfl, hne⟩ := timeParts_eq_some ht
          refine .time hx hhr hmi hse ?_
          rcases hr with _ | _ <;> rcases mi with _ | _ <;> rcases se with _ | _ <;> simp_all
  next => cases h

theorem parts_isSome_iff {u : List Char} : (parts u).isSome ↔ Form u :=
  ⟨fun h => form_of_parts (Option.get_mem h), parts_of_form⟩

theorem parse_of_form {s : String} (h : Form ((Text.trim s).toList.map Char.toUpper)) :
    parse s = .ok ⟨Text.trim s⟩ := by
  obtain ⟨n, hn⟩ := Option.isSome_iff_exists.1 (parts_of_form h)
  simp only [Text.trim, String.toList_ofList] at hn
  simp only [parse, hn, Text.trim]

theorem parse_of_not_form {s : String} (h : ¬Form ((Text.trim s).toList.map Char.toUpper)) :
    parse s = .error (refusal s) := by
  have hn : parts ((Text.trimChars s.toList).map Char.toUpper) = none := by
    simpa [Text.trim, ← parts_isSome_iff] using h
  simp only [parse, hn]

/-- A text is read as a duration exactly when, trimmed and upper-cased, it is written in
`Form`; the duration keeps the trimmed text as written, and a refusal quotes the text as
given. -/
theorem parse_accepts_exactly_form (s : String) :
    (∀ d, parse s = .ok d ↔
      Form ((Text.trim s).toList.map Char.toUpper) ∧ d.text = Text.trim s) ∧
    (∀ e, parse s = .error e ↔ ¬Form ((Text.trim s).toList.map Char.toUpper) ∧
      e = "invalid test duration " ++ Text.quote s ++ ", expected an ISO-8601 duration like PT1S") := by
  by_cases hf : Form ((Text.trim s).toList.map Char.toUpper)
  · rw [parse_of_form hf]
    refine ⟨fun d => ⟨?_, ?_⟩, fun e => ⟨fun h => (nomatch h), fun h => absurd hf h.1⟩⟩
    · intro h
      cases h
      exact ⟨hf, rfl⟩
    · rintro ⟨-, hd⟩
      rw [← hd]
  · rw [parse_of_not_form hf]
    refine ⟨fun d => ⟨fun h => (nomatch h), fun h => absurd h.1 hf⟩, fun e => ⟨?_, ?_⟩⟩
    · intro h
      cases h
      exact ⟨hf, rfl⟩
    · rintro ⟨-, rfl⟩
      rfl

end Provisioner.Duration
