import Appraisal.Digest.Fingerprint
import Appraisal.Proofs.Outcome
import Appraisal.Proofs.Text.Basic

/-!
# Texts of inputs

The text that a fingerprint hashes is put together from the fields with their inputs. It exists when
every input can be written as a text, and it has a hash when it can be written as bytes.
-/

namespace Appraisal.Fingerprint

open Outcome

variable {fields : List Text} {inputs : List (Text × Datum)}

def input (inputs : List (Text × Datum)) (f : Text) : Datum :=
  ((inputs.find? (fun i => i.1 = f)).map Prod.snd).getD .null

def part (inputs : List (Text × Datum)) (f : Text) : Except Fault Text := do
  let s ← canonical (input inputs f)
  return f ++ "=" ++ labelled (input inputs f) s

theorem text_eq (fields : List Text) (inputs : List (Text × Datum)) :
    text fields inputs = (do
      let parts ← fields.mapM (part inputs)
      return Text.intercalate "|" parts) := rfl

theorem part_eq_ok {f t : Text} (h : canonical (input inputs f) = .ok t) :
    part inputs f = .ok (f ++ "=" ++ labelled (input inputs f) t) := by
  rw [part, h]
  rfl

theorem canonicalItems_eq_mapM (ds : List Datum) : canonicalItems ds = ds.mapM canonical := by
  induction ds with
  | nil => rfl
  | cons d ds ih =>
      rw [canonicalItems, ih, List.mapM_cons]

theorem canonicalItems_texts (ts : List Text) :
    canonicalItems (ts.map .text) = .ok ts := by
  induction ts with
  | nil => rfl
  | cons t ts ih =>
      simp only [List.map_cons, canonicalItems, canonical, ih, ok_bind]
      rfl

theorem isPlain_labelled {d : Datum} {t : Text} (h : t.IsPlain) : (labelled d t).IsPlain := by
  cases d with
  | member kind name value =>
      exact ((Text.isPlain_ofString kind).append (Text.isPlain_ofString ".")).append
        (Text.isPlain_ofString name)
  | _ => exact h

/-- An input is null or one of those that are given. -/
theorem input_eq_null_or_mem (inputs : List (Text × Datum)) (f : Text) :
    input inputs f = .null ∨ (f, input inputs f) ∈ inputs := by
  unfold input
  cases hi : inputs.find? (fun i => i.1 = f) with
  | none => exact .inl rfl
  | some i =>
      have hf : i.1 = f := by simpa using List.find?_some hi
      refine .inr ?_
      rw [← hf]
      exact List.mem_of_find?_eq_some hi

/-- Inputs that can be written as texts have a text together. It is plain when they and the names of
the fields are. -/
theorem exists_text (h : ∀ i ∈ inputs, ∃ t, canonical i.2 = .ok t) :
    ∃ t, text fields inputs = .ok t ∧
      ((∀ f ∈ fields, f.IsPlain) → (∀ i ∈ inputs, ∀ t, canonical i.2 = .ok t → t.IsPlain) →
        t.IsPlain) := by
  have hinput (f : Text) : ∃ t, canonical (input inputs f) = .ok t ∧
      ((∀ i ∈ inputs, ∀ t, canonical i.2 = .ok t → t.IsPlain) → t.IsPlain) := by
    rcases input_eq_null_or_mem inputs f with hnull | hmem
    · exact ⟨"null", by rw [hnull]; rfl, fun _ => Text.isPlain_ofString "null"⟩
    · obtain ⟨t, ht⟩ := h _ hmem
      exact ⟨t, ht, fun hplain => hplain _ hmem t ht⟩
  have hpart (f : Text) (hf : f ∈ fields) : ∃ p, part inputs f = .ok p ∧
      ((∀ f ∈ fields, f.IsPlain) → (∀ i ∈ inputs, ∀ t, canonical i.2 = .ok t → t.IsPlain) →
        p.IsPlain) := by
    obtain ⟨t, ht, hplain⟩ := hinput f
    refine ⟨_, part_eq_ok ht, fun hfields hinputs => ?_⟩
    exact ((hfields f hf).append (Text.isPlain_ofString "=")).append
      (isPlain_labelled (hplain hinputs))
  obtain ⟨parts, hparts, hplain⟩ := exists_mapM_eq_ok hpart
  refine ⟨Text.intercalate "|" parts, ?_, fun hfields hinputs => ?_⟩
  · rw [text_eq, hparts]
    rfl
  · exact Text.isPlain_intercalate (Text.isPlain_ofString "|")
      (fun p hp => hplain p hp hfields hinputs)

/-- A plain text has a hash. -/
theorem exists_ofInputs {t : Text} (h : text fields inputs = .ok t) (ht : t.IsPlain) :
    ∃ s, t.string? = some s ∧
      ofInputs fields inputs = .ok (String.ofList ((Sha256.hexDigest s).toList.take length)) := by
  obtain ⟨s, hs⟩ := ht.exists_string?
  refine ⟨s, hs, ?_⟩
  rw [ofInputs, h, ok_bind, hs]
  rfl

/-- Inputs without a text have no hash either. -/
theorem exists_text_of_ofInputs {s : String} (h : ofInputs fields inputs = .ok s) :
    ∃ t, text fields inputs = .ok t ∧ t.IsPlain := by
  obtain ⟨t, ht, h⟩ := bind_eq_ok_iff.1 h
  refine ⟨t, ht, ?_⟩
  split at h
  case h_1 u hu => exact Text.isPlain_of_string? hu
  case h_2 => cases h

end Appraisal.Fingerprint
