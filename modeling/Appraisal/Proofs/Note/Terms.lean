import Appraisal.Note.Call
import Appraisal.Proofs.Note.Words
import Appraisal.Proofs.Number.Report

/-!
# Reading any note

The readers of notes take any text whatever. A number is always a finite double, a token has no blank
in it, and a risk has one of four names. A duration is some number of whole days, and it has none only
when its count, or the product of the count and its unit, is past the largest double. So this is also
all that can make a call on texts fail, whichever function is called.

A double that is written behind a label is read back from the note, bit for bit. The label is found
where it was written if it stands nowhere before, the token ends at the first blank behind it, and
each form in which a double is written is one of a numeral. The main statements: `reads_any_note`,
`call_texts` and `number_of_written`.
-/

namespace Appraisal

namespace Note

open Text Binary

/-! ### Tokens -/

theorem isFinite_number (note label : Text) : (number note label).isFinite = true := by
  unfold number
  cases hread : (chars? (tokenLetters note.toList label.toList)).bind finiteNumber? with
  | none => decide +kernel
  | some x =>
      obtain ⟨s, -, hx⟩ := Option.bind_eq_some_iff.1 hread
      unfold finiteNumber? at hx
      split at hx
      · split at hx
        · rename_i hfinite
          exact Option.some.inj hx ▸ hfinite
        · cases hx
      · cases hx

theorem isBlank_of_mem_token {note label : Text} {l : Letter} (h : l ∈ (token note label).toList) :
    l.isBlank = false := by
  unfold token tokenLetters at h
  split at h
  · cases h
  · split at h
    · exact not_isBlank_of_mem_word h
    · cases h

/-! ### Durations -/

theorem negative_of_duration? {s : List Char} {count : Numeral} {unit : Nat}
    (h : duration? s = some (count, unit)) : count.negative = false := by
  unfold duration? at h
  split at h
  · cases h
  · rename_i n rest hspan
    obtain ⟨days, -, heq⟩ := Option.map_eq_some_iff.1 h
    obtain rfl : n = count := congrArg Prod.fst heq
    obtain ⟨-, hcount⟩ := Option.ite_none_left_eq_some.1 hspan
    cases hcount
    rfl

/-- Is a count of units, or its number of days, past the largest double? -/
def IsPastDoubles (count : Numeral) (unit : Nat) : Prop :=
  leastTooLarge ≤ count.magnitude ∨
    leastTooLarge ≤ (ofFloat count.toFloat).magnitude * unit

/-- A duration that no double is near to. -/
def IsTooLong (t : Text) : Prop :=
  ∃ count unit, (chars? t.toList).bind duration? = some (count, unit) ∧ IsPastDoubles count unit

theorem truncateInt_signed_infiniteBits (negative : Bool) :
    truncateInt (signed negative infiniteBits) = .error .infinite := by
  unfold truncateInt Appraisal.integral
  rw [ofFloat_signed_infiniteBits]

/-- The number of days of a count without a sign. -/
theorem truncateInt_scale_toFloat {count : Numeral} (hsign : count.negative = false) (unit : Nat) :
    truncateInt (scale count.toFloat unit 1) = .error .infinite ∧ IsPastDoubles count unit ∨
      ∃ n : Nat, truncateInt (scale count.toFloat unit 1) = .ok n ∧ ¬ IsPastDoubles count unit := by
  obtain ⟨bits, hle, hfloat, hfinite⟩ := count.exists_toFloat_eq
  rw [hsign] at hfloat
  unfold IsPastDoubles
  rw [hfloat]
  rcases hle.lt_or_eq with hlt | rfl
  · have hmagnitude := not_le.2 (hfinite.1 hlt)
    obtain ⟨m, place, -, hm⟩ := exists_spells hlt
    obtain ⟨num, den, hden, hratio, hscale⟩ := exists_scale_eq (hm false) unit one_ne_zero
    have hiff : nearestBits num den < infiniteBits ↔ (num : ℚ) / den < leastTooLarge :=
      nearestBits_lt_infiniteBits_iff hden
    rw [Nat.cast_one, div_one] at hratio
    rw [hscale, hm, magnitude, ← hratio]
    rcases (nearestBits_le num den).lt_or_eq with hbits | hbits
    · exact .inr ⟨_, truncateInt_nearest_eq hbits,
        not_or.2 ⟨hmagnitude, not_le.2 (hiff.1 hbits)⟩⟩
    · refine .inl ⟨?_, .inr (not_lt.1 fun hless => (hiff.2 hless).ne hbits)⟩
      rw [nearest, hbits]
      exact truncateInt_signed_infiniteBits false
  · refine .inl ⟨?_, .inl (not_lt.1 fun hless => lt_irrefl _ (hfinite.2 hless))⟩
    unfold scale
    rw [ofFloat_signed_infiniteBits]
    exact truncateInt_signed_infiniteBits false

theorem days_eq_infinite_or_ok (t : Text) :
    days t = .error .infinite ∧ IsTooLong t ∨ ∃ n : Nat, days t = .ok n ∧ ¬ IsTooLong t := by
  unfold days IsTooLong
  cases hduration : (chars? t.toList).bind duration? with
  | none =>
      refine .inr ⟨0, rfl, ?_⟩
      rintro ⟨count, unit, hsome, -⟩
      cases hsome
  | some duration =>
      obtain ⟨count, unit⟩ := duration
      obtain ⟨s, -, hs⟩ := Option.bind_eq_some_iff.1 hduration
      rcases truncateInt_scale_toFloat (negative_of_duration? hs) unit with
        ⟨hdays, hpast⟩ | ⟨n, hdays, hpast⟩
      · exact .inl ⟨hdays, count, unit, rfl, hpast⟩
      · refine .inr ⟨n, hdays, ?_⟩
        rintro ⟨count', unit', hsome, hpast'⟩
        cases hsome
        exact hpast hpast'

/-! ### Terms -/

/-- What a reader of terms promises of them. -/
structure Terms.IsProper (terms : Terms) : Prop where
  interestRate : terms.interestRate.isFinite = true
  period : ∀ l ∈ terms.period.toList, l.isBlank = false
  targetDays : 0 ≤ terms.targetDays
  risk : terms.risk.name ∈ ["high", "medium", "low", "unknown"]

theorem Risk.name_mem (r : Risk) : r.name ∈ ["high", "medium", "low", "unknown"] := by
  cases r <;> decide

theorem Terms.ofNote_eq_map (note : Text) :
    Terms.ofNote note = (days (token note targetLabel)).map
      (⟨number note interestLabel, token note periodLabel, ·, .ofNote note⟩) := by
  unfold Terms.ofNote
  cases days (token note targetLabel) <;> rfl

theorem Terms.ofNote_eq_infinite_or_ok (note : Text) :
    Terms.ofNote note = .error .infinite ∧ IsTooLong (token note targetLabel) ∨
      ∃ terms, Terms.ofNote note = .ok terms ∧ terms.IsProper ∧
        ¬ IsTooLong (token note targetLabel) := by
  rw [Terms.ofNote_eq_map]
  rcases days_eq_infinite_or_ok (token note targetLabel) with ⟨hdays, hlong⟩ | ⟨n, hdays, hlong⟩
  · rw [hdays]
    exact .inl ⟨rfl, hlong⟩
  · rw [hdays]
    refine .inr ⟨_, rfl, ⟨isFinite_number note interestLabel, ?_, n.cast_nonneg, Risk.name_mem _⟩,
      hlong⟩
    exact fun l hl => isBlank_of_mem_token hl

/-- Any note, label and token are read. Only a duration that no double is near to stops the reader,
and with it that of the terms whose target it is. -/
theorem reads_any_note (note label t : Text) :
    (number note label).isFinite = true ∧
    (days t = .error .infinite ∧ IsTooLong t ∨
      ∃ n : Int, days t = .ok n ∧ 0 ≤ n ∧ ¬ IsTooLong t) ∧
    (Terms.ofNote note = .error .infinite ∧ IsTooLong (token note targetLabel) ∨
      ∃ terms, Terms.ofNote note = .ok terms ∧ terms.IsProper ∧
        ¬ IsTooLong (token note targetLabel)) := by
  refine ⟨isFinite_number note label, ?_, Terms.ofNote_eq_infinite_or_ok note⟩
  rcases days_eq_infinite_or_ok t with hlong | ⟨n, hdays, hlong⟩
  · exact .inl hlong
  · exact .inr ⟨n, hdays, n.cast_nonneg, hlong⟩

/-- A count of years with 307 digits, which is a double, but its number of days is not. -/
def longYears : Text :=
  .ofList (('1' :: List.replicate 306 '0' ++ ['y']).map .char)

/-- So the readers of durations and of terms do not take every text. -/
theorem days_longYears_eq_error :
    days longYears = .error .infinite ∧
      Terms.ofNote (targetLabel ++ longYears) = .error .infinite := by
  have hdays : days longYears = .error .infinite := by decide +kernel
  have htoken : token (targetLabel ++ longYears) targetLabel = longYears := by decide +kernel
  refine ⟨hdays, ?_⟩
  rw [Terms.ofNote_eq_map, htoken, hdays]
  rfl

/-! ### Calls -/

/-- Texts that the function of a name can be called on. -/
inductive Takes : String → List Text → Prop
  | token (note label : Text) : Takes "parse_note_string" [note, label]
  | number (note label : Text) : Takes "parse_note_float" [note, label]
  | contains (note part : Text) : Takes "note_contains" [note, part]
  | closeMarker (notes : List Text) : Takes "has_close_marker" notes
  | duration (t : Text) : Takes "parse_duration" [t]
  | risk (note : Text) : Takes "parse_risk_level" [note]
  | terms (note : Text) : Takes "parse_loan_terms" [note]

def durationOf? : String → List Text → Option Text
  | "parse_duration", [t] => some t
  | "parse_loan_terms", [note] => some (token note targetLabel)
  | _, _ => none

theorem mapM_searched_texts (ts : List Text) : (ts.map Datum.text).mapM searched = .ok ts := by
  induction ts with
  | nil => rfl
  | cons t ts ih =>
      rw [List.map_cons, List.mapM_cons, ih]
      rfl

theorem exists_labelled_eq {α : Type} (read : Text → Text → α) (note label : Text) :
    ∃ a, labelled read (.text note) (.text label) = .ok a := by
  unfold labelled
  split
  · exact ⟨_, rfl⟩
  · exact ⟨_, rfl⟩

/-- Nothing but a duration that is too long makes a call on texts fail. -/
theorem call_texts {name : String} {ts : List Text} (h : Takes name ts) :
    (∃ d, call name (ts.map .text) = .ok d) ∧ (∀ t ∈ durationOf? name ts, ¬ IsTooLong t) ∨
      call name (ts.map .text) = .error (.refusal (.notIntegral .infinite)) ∧
        ∃ t ∈ durationOf? name ts, IsTooLong t := by
  cases h with
  | token note label =>
      obtain ⟨a, ha⟩ := exists_labelled_eq Note.token note label
      exact .inl ⟨⟨.text a, congrArg (Except.map Datum.text) ha⟩, nofun⟩
  | number note label =>
      obtain ⟨a, ha⟩ := exists_labelled_eq Note.number note label
      exact .inl ⟨⟨.double a, congrArg (Except.map Datum.double) ha⟩, nofun⟩
  | contains note part => exact .inl ⟨⟨_, rfl⟩, nofun⟩
  | closeMarker =>
      have hcall : call "has_close_marker" (ts.map .text) =
          (do return .truth (hasCloseMarker (← (ts.map Datum.text).mapM searched))) := rfl
      refine .inl ⟨⟨.truth (hasCloseMarker ts), ?_⟩, fun t ht => ?_⟩
      · rw [hcall, mapM_searched_texts]
        rfl
      · cases ht
  | duration t =>
      have hcall : call "parse_duration" [.text t] =
          (do return .whole (← integral (days t))) := rfl
      rcases days_eq_infinite_or_ok t with ⟨hdays, hlong⟩ | ⟨n, hdays, hlong⟩
      · exact .inr ⟨by rw [List.map_singleton, hcall, hdays]; rfl, t, rfl, hlong⟩
      · refine .inl ⟨⟨.whole n, by rw [List.map_singleton, hcall, hdays]; rfl⟩, ?_⟩
        rintro t ⟨⟩
        exact hlong
  | risk note => exact .inl ⟨⟨_, rfl⟩, nofun⟩
  | terms note =>
      have hcall : call "parse_loan_terms" [.text note] =
          (do return (← integral (Terms.ofNote note)).datum) := rfl
      rcases Terms.ofNote_eq_infinite_or_ok note with ⟨hterms, hlong⟩ | ⟨terms, hterms, -, hlong⟩
      · exact .inr ⟨by rw [List.map_singleton, hcall, hterms]; rfl, _, rfl, hlong⟩
      · refine .inl ⟨⟨terms.datum, by rw [List.map_singleton, hcall, hterms]; rfl⟩, ?_⟩
        rintro t ⟨⟩
        exact hlong

/-! ### Numbers that are written -/

variable {before label rest : List Letter}

/-- What is written behind a label that stands nowhere before is what follows the label. -/
theorem after?_append (hne : label ≠ [])
    (h : ∀ i < before.length, ¬ label <+: (before ++ label).drop i) :
    after? label (before ++ (label ++ rest)) = some rest := by
  induction before with
  | nil =>
      obtain ⟨l, ls, rfl⟩ := List.exists_cons_of_ne_nil hne
      have hprefix : (l :: ls).isPrefixOf (l :: (ls ++ rest)) = true :=
        List.isPrefixOf_iff_prefix.2 (List.prefix_append (l :: ls) rest)
      rw [List.nil_append, List.cons_append, after?, if_pos hprefix, ← List.cons_append,
        List.drop_left]
  | cons c before ih =>
      have hhead : ¬ label.isPrefixOf (c :: (before ++ (label ++ rest))) = true := by
        rw [List.isPrefixOf_iff_prefix, ← List.append_assoc, ← List.cons_append]
        intro hprefix
        refine h 0 (Nat.zero_lt_succ _) ?_
        exact List.prefix_of_prefix_length_le hprefix (List.prefix_append _ rest)
          (by simp; omega)
      rw [List.cons_append, after?, if_neg hhead]
      refine ih (fun i hi => ?_)
      exact h (i + 1) (Nat.succ_lt_succ hi)

theorem word_eq_nil (h : ∀ l ∈ rest.head?, l.isBlank = true) : word rest = [] := by
  cases rest with
  | nil => rfl
  | cons l s => exact List.takeWhile_cons_of_neg (by simp [h l rfl])

/-- What a report of a finite double writes is read as the double. -/
theorem finiteNumber?_report {x : Float} (hx : x.isFinite = true) :
    finiteNumber? (reportNotation.chars x) = some x ∧
      ∀ c ∈ reportNotation.chars x, isBlank c = false := by
  obtain ⟨n, hn, hvalue⟩ :=
    FloatNotation.exists_isWrittenAs_chars (show reportNotation.integralMark = ".0" from rfl) hx
  refine ⟨?_, fun c hc => (hn.not_isBlank hc).1⟩
  unfold finiteNumber?
  rw [hn.read?_eq, Option.map_some, hvalue]
  exact if_pos hx

/-- A finite double that is written behind a label is read back, whatever stands in front of the label
and behind the number: the label must not stand in front as well, nor begin there, and a blank must
end the number if anything follows it. -/
theorem number_of_written {x : Float} (hx : x.isFinite = true) {before label after : Text}
    (hne : label.toList ≠ [])
    (hfirst : ∀ i < before.length, ¬ label.toList <+: (before ++ label).toList.drop i)
    (hafter : ∀ l ∈ after.toList.head?, l.isBlank = true) :
    number (before ++ label ++ floatText x ++ after) label = x := by
  obtain ⟨hread, hsolid⟩ := finiteNumber?_report hx
  have htext : (floatText x : Text).toList = (reportNotation.chars x).map .char := by
    rw [floatText, FloatNotation.text, ofString, String.toList_ofList]
  have hletters : IsSolid ((reportNotation.chars x).map .char) := by
    intro l hl
    obtain ⟨c, hc, rfl⟩ := List.mem_map.1 hl
    exact hsolid c hc
  have hnote : (before ++ label ++ floatText x ++ after).toList =
      before.toList ++ (label.toList ++ ((reportNotation.chars x).map .char ++ after.toList)) := by
    simp [htext]
  have htoken : tokenLetters (before ++ label ++ floatText x ++ after).toList label.toList =
      (reportNotation.chars x).map .char := by
    unfold tokenLetters
    rw [if_neg (by simpa using hne), hnote, after?_append hne hfirst]
    show word ((reportNotation.chars x).map .char ++ after.toList) = _
    rw [word_append_of_isSolid hletters, word_eq_nil hafter, List.append_nil]
  rw [number, htoken, chars?_map_char, Option.bind_some, hread, Option.getD_some]

/-- The negative double next to zero, behind a word that starts like the label. -/
theorem number_of_written_least :
    let x : Float := Float.ofBits 0x8000000000000001
    let before : Text := "was Int Interest "
    let label : Text := "Int:"
    let after : Text := "\u2003Per:M"
    (x.isFinite = true ∧ label.toList ≠ [] ∧
      (∀ i < before.length, ¬ label.toList <+: (before ++ label).toList.drop i) ∧
      ∀ l ∈ after.toList.head?, l.isBlank = true) ∧
    floatText x = "-5e-324" ∧ number (before ++ label ++ floatText x ++ after) label = x := by
  intro x before label after
  have hx : x.isFinite = true := by decide +kernel
  have hne : label.toList ≠ [] := by decide
  have hfirst : ∀ i < before.length, ¬ label.toList <+: (before ++ label).toList.drop i := by
    decide +kernel
  have hafter : ∀ l ∈ after.toList.head?, l.isBlank = true := by decide +kernel
  exact ⟨⟨hx, hne, hfirst, hafter⟩, by decide +kernel, number_of_written hx hne hfirst hafter⟩

end Note

end Appraisal
