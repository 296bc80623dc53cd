import Mathlib
import Provisioner.Proofs.Duration
import Provisioner.Harness.Params
import Provisioner.Cli.Run

/-!
# The harness reads its parameters back

The config map has seven keys whatever the parameters (`data_eq`), and for every parameter set
a command line can give (`task_valid`), each value reads back as the parameter it was written
from (`harness_data_decodes`).
-/

namespace Provisioner

open Cli (readWord digitsValue)

theorem digitsValue_eq {digits : List Char} {n : Nat} (hd : ∀ c ∈ digits, c.isDigit)
    (hle : Nat.ofDigitChars 10 digits n ≤ Cli.countLimit) :
    digitsValue digits n = .ok (Nat.ofDigitChars 10 digits n) := by
  induction digits generalizing n with
  | nil => rfl
  | cons c rest ih =>
    rw [Nat.ofDigitChars_cons] at hle ⊢
    have hstep : 10 * n + (c.toNat - '0'.toNat) ≤ Cli.countLimit := by
      refine le_trans ?_ hle
      rw [Nat.ofDigitChars_eq_ofDigitChars_zero]
      exact le_trans (Nat.le_mul_of_pos_left _ (Nat.pow_pos (by decide))) (Nat.le_add_right _ _)
    simp only [digitsValue, hd c List.mem_cons_self, if_true, hstep]
    exact ih (fun c' hc' => hd c' (List.mem_cons_of_mem _ hc')) hle

theorem readWord_of_isDigit {s : String} {c : Char} {cs : List Char} (hs : s.toList = c :: cs)
    (hc : c.isDigit) : readWord s = digitsValue (c :: cs) 0 := by
  have hplus : c ≠ '+' := by rintro rfl; simp at hc
  have hminus : c ≠ '-' := by rintro rfl; simp at hc
  unfold readWord
  rw [hs]
  split <;> simp_all

theorem readWord_toString {n : Nat} (hn : n ≤ Cli.countLimit) :
    readWord (toString n) = .ok n := by
  have hdigits : ∀ c ∈ Nat.toDigits 10 n, c.isDigit := fun c hc =>
    Nat.isDigit_of_mem_toDigits (by decide) (by decide) hc
  obtain ⟨c, cs, hcs⟩ := List.exists_cons_of_ne_nil (Nat.toDigits_ne_nil (n := n) (b := 10))
  have hval := digitsValue_eq (n := 0) hdigits (by rw [Nat.ofDigitChars_ten_toDigits]; exact hn)
  rw [Nat.ofDigitChars_ten_toDigits, hcs] at hval
  have hs : (toString n).toList = c :: cs := by simp [hcs]
  rw [readWord_of_isDigit hs (hdigits c (by simp [hcs])), hval]

theorem toString_injective {m n : Nat} (h : toString m = toString n) : m = n := by
  have := congrArg (fun s : String => Nat.ofDigitChars 10 s.toList 0) h
  simpa using this

/-! ### Reading a duration back -/

namespace Text

theorem trimChars_eq (cs : List Char) :
    trimChars cs = (cs.dropWhile isBlank).rdropWhile isBlank := by
  simp [trimChars, List.rdropWhile]

theorem trimChars_trimChars (cs : List Char) : trimChars (trimChars cs) = trimChars cs := by
  rw [trimChars_eq cs]
  set a := cs.dropWhile isBlank
  set t := a.rdropWhile isBlank
  have hstart : t.dropWhile isBlank = t := by
    refine List.dropWhile_eq_self_iff.2 fun ht => ?_
    have ha : a.dropWhile isBlank = a := List.dropWhile_idempotent isBlank cs
    have hpre : t <+: a := List.rdropWhile_prefix isBlank a
    rw [hpre.getElem ht]
    exact List.dropWhile_eq_self_iff.1 ha (lt_of_lt_of_le ht hpre.length_le)
  rw [trimChars_eq, hstart, List.rdropWhile_idempotent]

theorem trim_trim (s : String) : trim (trim s) = trim s := by
  simp [trim, trimChars_trimChars]

end Text

namespace Duration

theorem parse_text_of_parse {s : String} {d : Duration} (h : parse s = .ok d) :
    parse d.text = .ok d := by
  by_cases hf : Form ((Text.trim s).toList.map Char.toUpper)
  · rw [parse_of_form hf] at h
    cases h
    rw [← Text.trim_trim s] at hf
    rw [parse_of_form hf, Text.trim_trim]
  · rw [parse_of_not_form hf] at h
    cases h

theorem parse_oneSecond : parse oneSecond.text = .ok oneSecond := rfl

end Duration

theorem Strategy.parse_text (s : Strategy) : Strategy.parse s.text = .ok s := by
  cases s <;> rfl

theorem Strategy.text_injective {s t : Strategy} (h : s.text = t.text) : s = t := by
  have := congrArg Strategy.parse h
  rw [Strategy.parse_text, Strategy.parse_text] at this
  exact Except.ok.inj this

theorem Duration.text_injective {d e : Duration} (h : d.text = e.text) : d = e := by
  cases d
  cases e
  simpa using h

/-! ### The seven entries -/

theorem data_eq (p : HarnessParams) : p.data.entries =
    [("MAX_PEERSETS_IN_CHANGE", toString p.maxPeersetsInChange),
      ("MULTIPLE_PEERSET_CHANGES_NUMBER", toString p.multipleRequests),
      ("NOTIFICATION_SERVICE_ADDRESS", notificationServiceAddress),
      ("SINGLE_PEERSET_CHANGES_NUMBER", toString p.singleRequests),
      ("TESTS_STRATEGY", p.strategy.text),
      ("TEST_DURATION", p.testDuration.text),
      ("TEST_PEERS", p.peers.descriptor peerPort)] :=
  -- the keys are fixed, so the order of the inserts is decided on them alone
  rfl

theorem get?_data (p : HarnessParams) :
    p.data.get? "SINGLE_PEERSET_CHANGES_NUMBER" = some (toString p.singleRequests) ∧
    p.data.get? "MULTIPLE_PEERSET_CHANGES_NUMBER" = some (toString p.multipleRequests) ∧
    p.data.get? "MAX_PEERSETS_IN_CHANGE" = some (toString p.maxPeersetsInChange) ∧
    p.data.get? "TEST_DURATION" = some p.testDuration.text ∧
    p.data.get? "TESTS_STRATEGY" = some p.strategy.text ∧
    p.data.get? "TEST_PEERS" = some (p.peers.descriptor peerPort) := by
  simp only [LabelMap.get?, data_eq]
  exact ⟨rfl, rfl, rfl, rfl, rfl, rfl⟩

/-- Parameters as a run can hold them: every count fits an unsigned 32-bit word, and the test
duration was read from a text or is the default. -/
structure HarnessParams.Valid (p : HarnessParams) : Prop where
  singleRequests_le : p.singleRequests ≤ Cli.countLimit
  multipleRequests_le : p.multipleRequests ≤ Cli.countLimit
  maxPeersetsInChange_le : p.maxPeersetsInChange ≤ Cli.countLimit
  duration_read : p.testDuration = Duration.oneSecond ∨ ∃ s, Duration.parse s = .ok p.testDuration

theorem HarnessParams.Valid.parse_duration {p : HarnessParams} (hp : p.Valid) :
    Duration.parse p.testDuration.text = .ok p.testDuration := by
  rcases hp.duration_read with hd | ⟨s, hs⟩
  · rw [hd]
    exact Duration.parse_oneSecond
  · exact Duration.parse_text_of_parse hs

theorem readCount_le {s : String} {n : Nat} (h : Cli.readCount s = .ok n) :
    n ≤ Cli.countLimit := by
  unfold Cli.readCount at h
  cases hi : Cli.readInteger s with
  | error e => simp [hi] at h; cases h
  | ok i =>
    simp only [hi, bind, Except.bind] at h
    split at h
    · next hr =>
      cases h
      omega
    · cases h

theorem count_le (p : Cli.Parsed) (id : String) {d : Nat} (hd : d ≤ Cli.countLimit) :
    p.count id d ≤ Cli.countLimit := by
  unfold Cli.Parsed.count
  split
  · next v _ =>
    cases hr : Cli.readCount v with
    | error e => simpa [hr, Except.toOption] using hd
    | ok n => simpa [hr, Except.toOption] using readCount_le hr
  · exact hd

theorem task_valid {p : Cli.Parsed} {c : PerformanceConfig} (h : p.task = .performance c) :
    c.harness.Valid := by
  unfold Cli.Parsed.task at h
  split at h
  · cases h
  · cases h
    refine ⟨count_le p _ (by decide), count_le p _ (by decide), count_le p _ (by decide), ?_⟩
    split
    · next d hd =>
      obtain ⟨s, -, hs⟩ := Option.map_eq_some_iff.1 hd
      exact .inr ⟨s, hs⟩
    · exact .inl rfl

theorem harness_data_decodes (p : HarnessParams) (hp : p.Valid) :
    p.data.entries.map (·.1) = ["MAX_PEERSETS_IN_CHANGE", "MULTIPLE_PEERSET_CHANGES_NUMBER",
      "NOTIFICATION_SERVICE_ADDRESS", "SINGLE_PEERSET_CHANGES_NUMBER", "TESTS_STRATEGY",
      "TEST_DURATION", "TEST_PEERS"] ∧
    (p.data.get? "SINGLE_PEERSET_CHANGES_NUMBER").map readWord = some (.ok p.singleRequests) ∧
    (p.data.get? "MULTIPLE_PEERSET_CHANGES_NUMBER").map readWord =
      some (.ok p.multipleRequests) ∧
    (p.data.get? "MAX_PEERSETS_IN_CHANGE").map readWord = some (.ok p.maxPeersetsInChange) ∧
    (p.data.get? "TEST_DURATION").map Duration.parse = some (.ok p.testDuration) ∧
    (p.data.get? "TESTS_STRATEGY").map Strategy.parse = some (.ok p.strategy) ∧
    p.data.get? "TEST_PEERS" = some (p.peers.descriptor 8080) ∧
    ∀ q : HarnessParams, p.data = q.data ↔
      p.singleRequests = q.singleRequests ∧ p.multipleRequests = q.multipleRequests ∧
      p.testDuration = q.testDuration ∧ p.maxPeersetsInChange = q.maxPeersetsInChange ∧
      p.strategy = q.strategy ∧ p.peers.descriptor 8080 = q.peers.descriptor 8080 := by
  obtain ⟨hsingle, hmul, hmax, hdur, hstrat, hpeers⟩ := get?_data p
  refine ⟨by rw [data_eq]; rfl, ?_, ?_, ?_, ?_, ?_, hpeers, fun q => ?_⟩
  · rw [hsingle, Option.map_some, readWord_toString hp.singleRequests_le]
  · rw [hmul, Option.map_some, readWord_toString hp.multipleRequests_le]
  · rw [hmax, Option.map_some, readWord_toString hp.maxPeersetsInChange_le]
  · rw [hdur, Option.map_some, hp.parse_duration]
  · rw [hstrat, Option.map_some, Strategy.parse_text]
  · rw [LabelMap.ext_iff, data_eq, data_eq]
    simp only [List.cons.injEq, Prod.mk.injEq, true_and, and_true]
    constructor
    · rintro ⟨hmax, hmul, hsingle, hstrat, hdur, hpeers⟩
      exact ⟨toString_injective hsingle, toString_injective hmul, Duration.text_injective hdur,
        toString_injective hmax, Strategy.text_injective hstrat, hpeers⟩
    · rintro ⟨hsingle, hmul, hdur, hmax, hstrat, hpeers⟩
      exact ⟨by rw [hmax], by rw [hmul], by rw [hsingle], by rw [hstrat], by rw [hdur], hpeers⟩

def sampleParams : HarnessParams :=
  ⟨Topology.ofCounts [3, 1, 2], 10, 4, ⟨"PT5M"⟩, 3, .random⟩

theorem harness_data_decodes_sample :
    sampleParams.Valid ∧
    (sampleParams.data.get? "SINGLE_PEERSET_CHANGES_NUMBER").map readWord = some (.ok 10) ∧
    (sampleParams.data.get? "MULTIPLE_PEERSET_CHANGES_NUMBER").map readWord = some (.ok 4) ∧
    (sampleParams.data.get? "MAX_PEERSETS_IN_CHANGE").map readWord = some (.ok 3) ∧
    (sampleParams.data.get? "TEST_DURATION").map Duration.parse = some (.ok ⟨"PT5M"⟩) ∧
    (sampleParams.data.get? "TESTS_STRATEGY").map Strategy.parse = some (.ok .random) := by
  have hvalid : sampleParams.Valid := ⟨by decide, by decide, by decide, .inr ⟨"PT5M", rfl⟩⟩
  obtain ⟨-, hsingle, hmul, hmax, hdur, hstrat, -⟩ := harness_data_decodes sampleParams hvalid
  exact ⟨hvalid, hsingle, hmul, hmax, hdur, hstrat⟩

end Provisioner
