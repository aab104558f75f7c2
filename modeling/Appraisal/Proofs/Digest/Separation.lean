import Appraisal.Proofs.Digest.Fingerprint
import Mathlib.Data.List.Chain
import Mathlib.Data.List.Permutation

/-!
# What the text of inputs tells

The text that a fingerprint hashes shows where the input of a field ends only by the name of the next
field, and it does not quote the inputs. Inputs that are texts or lists of texts can be told from it
if no text looks like a list, no text in a list holds a comma, and no input holds the mark of the
field after it. Inputs without these conditions share their text, and so their fingerprint, with
different ones.
-/

namespace Appraisal.Fingerprint

open Outcome

variable {d d' : Datum} {f g : Text} {fields : List Text} {inputs inputs' : List (Text × Datum)}

/-! ### Single inputs -/

/-- A text that does not look like a list, or a list of texts that does not look like another one. -/
inductive IsDistinct : Datum → Prop
  | text {t : Text} (unlisted : ∀ s : Text, t ≠ "[" ++ s ++ "]") : IsDistinct (.text t)
  | texts {ts : List Text} (uncut : ∀ t ∈ ts, Letter.char ',' ∉ t.toList) (full : ts ≠ [""]) :
      IsDistinct (.list (ts.map .text))

theorem canonical_texts (ts : List Text) :
    canonical (.list (ts.map .text)) = .ok ("[" ++ Text.intercalate "," ts ++ "]") := by
  rw [canonical, canonicalItems_texts]
  rfl

section

variable {ts ts' : List Text}

theorem splitOn_intercalate (uncut : ∀ t ∈ ts, Letter.char ',' ∉ t.toList) (hne : ts ≠ []) :
    (Text.intercalate "," ts).toList.splitOn (.char ',') = ts.map Text.toList :=
  List.splitOn_intercalate (Letter.char ',') (List.forall_mem_map.2 uncut) (by simpa using hne)

theorem eq_nil_of_intercalate (uncut : ∀ t ∈ ts, Letter.char ',' ∉ t.toList) (full : ts ≠ [""])
    (h : Text.intercalate "," ts = "") : ts = [] := by
  by_contra hne
  have hsplit := splitOn_intercalate uncut hne
  rw [h] at hsplit
  exact full (List.map_injective_iff.2 (fun _ _ => Text.ext) hsplit.symm)

/-- Texts without commas are told from what they are joined to. -/
theorem intercalate_inj (uncut : ∀ t ∈ ts, Letter.char ',' ∉ t.toList) (full : ts ≠ [""])
    (uncut' : ∀ t ∈ ts', Letter.char ',' ∉ t.toList) (full' : ts' ≠ [""])
    (h : Text.intercalate "," ts = Text.intercalate "," ts') : ts = ts' := by
  by_cases hts : ts = []
  · subst hts
    exact (eq_nil_of_intercalate uncut' full' h.symm).symm
  by_cases hts' : ts' = []
  · subst hts'
    exact eq_nil_of_intercalate uncut full h
  have hsplit := splitOn_intercalate uncut hts
  rw [h, splitOn_intercalate uncut' hts'] at hsplit
  exact (List.map_injective_iff.2 (fun _ _ => Text.ext) hsplit).symm

end

theorem listed_inj {s s' : Text} (h : "[" ++ s ++ "]" = ("[" ++ s' ++ "]" : Text)) : s = s' := by
  have hletters := congrArg Text.toList h
  simp only [Text.toList_append, List.append_assoc] at hletters
  exact Text.ext (List.append_cancel_right (List.append_cancel_left hletters))

theorem IsDistinct.canonical_inj (h : IsDistinct d) (h' : IsDistinct d') :
    canonical d = canonical d' ↔ d = d' := by
  refine ⟨fun heq => ?_, fun heq => by rw [heq]⟩
  cases h with
  | @text t unlisted =>
      cases h' with
      | @text t' => exact congrArg Datum.text (Except.ok.inj heq)
      | @texts ts' =>
          rw [canonical_texts] at heq
          exact absurd (Except.ok.inj heq) (unlisted _)
  | @texts ts uncut full =>
      rw [canonical_texts] at heq
      cases h' with
      | @text t' unlisted => exact absurd (Except.ok.inj heq).symm (unlisted _)
      | @texts ts' uncut' full' =>
          rw [canonical_texts] at heq
          rw [intercalate_inj uncut full uncut' full' (listed_inj (Except.ok.inj heq))]

inductive IsTextual : Datum → Prop
  | text (t : Text) : IsTextual (.text t)
  | texts (ts : List Text) : IsTextual (.list (ts.map .text))

theorem IsDistinct.isTextual (h : IsDistinct d) : IsTextual d := by
  cases h with
  | text => exact .text _
  | texts => exact .texts _

theorem IsTextual.exists_part (h : IsTextual (input inputs f)) :
    ∃ t, canonical (input inputs f) = .ok t ∧ part inputs f = .ok (f ++ "=" ++ t) := by
  generalize hd : input inputs f = d at h
  cases h with
  | text t =>
      have ht : canonical (input inputs f) = .ok t := by rw [hd]; rfl
      refine ⟨t, rfl, (part_eq_ok ht).trans ?_⟩
      rw [hd]
      rfl
  | texts ts =>
      have ht := canonical_texts ts
      rw [← hd] at ht
      refine ⟨_, canonical_texts ts, (part_eq_ok ht).trans ?_⟩
      rw [hd]
      rfl

/-! ### Ends of inputs -/

/-- What stands between an input and that of the next field. -/
def mark (f : Text) : List Letter := .char '|' :: (f.toList ++ [.char '='])

/-- Where a mark follows the text, it stands nowhere before. -/
def IsClear (m s : List Letter) : Prop :=
  ∀ before after, s ++ m = before ++ (m ++ after) → after = []

theorem eq_of_append_mark {m s s' r r' : List Letter} (h' : IsClear m s')
    (h : s ++ (m ++ r) = s' ++ (m ++ r')) {a : List Letter} (ha : s' = s ++ a) : s = s' := by
  subst ha
  rw [List.append_assoc, List.append_cancel_left_eq] at h
  -- the mark after the shorter text is the start of what the longer one has more
  have hstart : m <+: a ++ m := by
    refine List.prefix_of_prefix_length_le ⟨r, h⟩ ⟨r', List.append_assoc _ _ _⟩ ?_
    simp
  obtain ⟨after, hafter⟩ := hstart
  obtain rfl : after = [] := h' s after (by rw [List.append_assoc, ← hafter])
  rw [List.append_nil, eq_comm, List.append_left_eq_self] at hafter
  rw [hafter, List.append_nil]

theorem append_mark_inj {m s s' r r' : List Letter} (h : IsClear m s) (h' : IsClear m s') :
    s ++ (m ++ r) = s' ++ (m ++ r') ↔ s = s' ∧ r = r' := by
  refine ⟨fun heq => ?_, fun ⟨hs, hr⟩ => by rw [hs, hr]⟩
  have hs : s = s' := by
    rcases List.append_eq_append_iff.1 heq with ⟨a, ha, -⟩ | ⟨a, ha, -⟩
    · exact eq_of_append_mark h' heq ha
    · exact (eq_of_append_mark h heq.symm ha).symm
  subst hs
  exact ⟨rfl, List.append_cancel_left (List.append_cancel_left heq)⟩

/-- The mark of a name without a bar can only overlap with itself as a whole. -/
theorem isClear_mark_iff (hf : Letter.char '|' ∉ f.toList) {s : List Letter} :
    IsClear (mark f) s ↔ ¬ mark f <:+: s := by
  constructor
  · rintro h ⟨before, after, rfl⟩
    have hnil := h before (after ++ mark f) (by simp [List.append_assoc])
    simp [mark] at hnil
  · intro h before after heq
    rw [← List.append_assoc] at heq
    rcases List.append_eq_append_iff.1 heq with ⟨a, ha, hm⟩ | ⟨a, ha, -⟩
    · -- the mark would start within the text and end within the mark that follows it
      by_contra hafter
      have hshort : a.length < (mark f).length := by
        rw [hm, List.length_append]
        exact Nat.lt_add_of_pos_right (List.length_pos_iff.2 hafter)
      have hsuffix : a <:+ mark f :=
        List.suffix_of_suffix_length_le ⟨s, ha.symm⟩ ⟨before, rfl⟩ hshort.le
      rcases List.suffix_cons_iff.1 hsuffix with rfl | htail
      · exact lt_irrefl _ hshort
      cases a with
      | nil => exact h ⟨before, [], by rw [List.append_nil, ha, List.append_nil]⟩
      | cons l a =>
          obtain rfl : Letter.char '|' = l := (List.cons.inj hm).1
          have hbar := htail.mem List.mem_cons_self
          simp [hf] at hbar
    · exact absurd ⟨before, a, ha.symm⟩ h

/-! ### All inputs -/

/-- The letters of an input; none if it has no text. -/
def letters (inputs : List (Text × Datum)) (f : Text) : List Letter :=
  match canonical (input inputs f) with
  | .ok t => t.toList
  | .error _ => []

/-- What follows the name of the first field in the text of inputs. -/
def body (value : Text → List Letter) : Text → List Text → List Letter
  | f, [] => value f
  | f, g :: rest => value f ++ (mark g ++ body value g rest)

theorem body_inj {value value' : Text → List Letter} {rest : List Text}
    (h : (f :: rest).IsChain (fun f g => IsClear (mark g) (value f)))
    (h' : (f :: rest).IsChain (fun f g => IsClear (mark g) (value' f))) :
    body value f rest = body value' f rest ↔ ∀ g ∈ f :: rest, value g = value' g := by
  induction rest generalizing f with
  | nil => simp [body]
  | cons g rest ih =>
      rw [List.isChain_cons_cons] at h h'
      rw [body, body, append_mark_inj h.1 h'.1, ih h.2 h'.2]
      simp only [List.forall_mem_cons]

/-- The inputs can be told from their text. -/
structure IsSeparated (fields : List Text) (inputs : List (Text × Datum)) : Prop where
  distinct : ∀ f ∈ fields, IsDistinct (input inputs f)
  clear : fields.IsChain (fun f g => IsClear (mark g) (letters inputs f))

theorem toList_intercalate_body (value : Text → List Letter) (f : Text) (rest : List Text) :
    (Text.intercalate "|" ((f :: rest).map (fun f => f ++ "=" ++ ⟨value f⟩))).toList =
      f.toList ++ .char '=' :: body value f rest := by
  induction rest generalizing f with
  | nil => simp [Text.intercalate, body, Text.ofString]
  | cons g rest ih =>
      have hcons :
          (Text.intercalate "|" ((f :: g :: rest).map (fun f => f ++ "=" ++ ⟨value f⟩))).toList =
            f.toList ++ .char '=' :: value f ++ (.char '|' ::
            (Text.intercalate "|" ((g :: rest).map (fun f => f ++ "=" ++ ⟨value f⟩))).toList) := by
        simp [Text.intercalate, Text.ofString]
      rw [hcons, ih, body, mark]
      simp

theorem text_eq_body {rest : List Text} (h : ∀ g ∈ f :: rest, IsTextual (input inputs g)) :
    text (f :: rest) inputs =
      .ok ⟨f.toList ++ .char '=' :: body (letters inputs) f rest⟩ := by
  have hpart : ∀ g ∈ f :: rest, part inputs g = .ok (g ++ "=" ++ ⟨letters inputs g⟩) :=
    fun g hg => by
      obtain ⟨t, ht, hpart⟩ := (h g hg).exists_part
      rw [hpart, letters, ht]
  have hparts : (f :: rest).mapM (part inputs) =
      .ok ((f :: rest).map (fun g => g ++ "=" ++ ⟨letters inputs g⟩)) := by
    rw [mapM_congr hpart]
    exact List.mapM_pure
  rw [text_eq, hparts]
  exact congrArg Except.ok (Text.ext (toList_intercalate_body _ f rest))

theorem letters_inj (h : IsDistinct (input inputs f)) (h' : IsDistinct (input inputs' f)) :
    letters inputs f = letters inputs' f ↔ input inputs f = input inputs' f := by
  obtain ⟨t, ht, -⟩ := h.isTextual.exists_part
  obtain ⟨t', ht', -⟩ := h'.isTextual.exists_part
  rw [← h.canonical_inj h', letters, letters, ht, ht', Except.ok.injEq]
  exact ⟨Text.ext, congrArg Text.toList⟩

theorem exists_text_of_isSeparated (h : IsSeparated fields inputs)
    (h' : IsSeparated fields inputs') :
    ∃ t t', text fields inputs = .ok t ∧ text fields inputs' = .ok t' ∧
      (t = t' ↔ ∀ f ∈ fields, input inputs f = input inputs' f) := by
  cases fields with
  | nil => exact ⟨"", "", rfl, rfl, by simp⟩
  | cons f rest =>
      refine ⟨_, _, text_eq_body (fun g hg => (h.distinct g hg).isTextual),
        text_eq_body (fun g hg => (h'.distinct g hg).isTextual), ?_⟩
      rw [Text.ofList.injEq, List.append_cancel_left_eq, List.cons.injEq, body_inj h.clear h'.clear]
      simp only [true_and]
      exact forall₂_congr (fun g hg => letters_inj (h.distinct g hg) (h'.distinct g hg))

def Collides (s s' : String) : Prop :=
  s ≠ s' ∧ (Sha256.hexDigest s).toList.take length = (Sha256.hexDigest s').toList.take length

/-- Inputs that are texts and lists of texts and can be told from what is hashed have texts, which are
the same only if all inputs are. If no surrogate stands in them they have one fingerprint only if all
inputs are the same or the first digits of the hash collide. -/
theorem text_separates (h : IsSeparated fields inputs) (h' : IsSeparated fields inputs') :
    ∃ t t', text fields inputs = .ok t ∧ text fields inputs' = .ok t' ∧
      (t = t' ↔ ∀ f ∈ fields, input inputs f = input inputs' f) ∧
      ∀ s s', t.string? = some s → t'.string? = some s' →
        (ofInputs fields inputs = ofInputs fields inputs' ↔
          (∀ f ∈ fields, input inputs f = input inputs' f) ∨ Collides s s') := by
  obtain ⟨t, t', ht, ht', heq⟩ := exists_text_of_isSeparated h h'
  refine ⟨t, t', ht, ht', heq, fun s s' hs hs' => ?_⟩
  obtain ⟨u, hu, hprint⟩ := exists_ofInputs ht (Text.isPlain_of_string? hs)
  obtain ⟨u', hu', hprint'⟩ := exists_ofInputs ht' (Text.isPlain_of_string? hs')
  obtain rfl : s = u := Option.some.inj (hs.symm.trans hu)
  obtain rfl : s' = u' := Option.some.inj (hs'.symm.trans hu')
  have htext : t = t' ↔ s = s' := by
    constructor
    · rintro rfl
      exact Option.some.inj (hs.symm.trans hs')
    · rintro rfl
      rw [← Text.ofString_of_string? hs, ← Text.ofString_of_string? hs']
  rw [hprint, hprint', Except.ok.injEq, String.ofList_inj, ← heq, htext]
  constructor
  · intro hdigits
    exact (em (s = s')).imp_right (fun hne => ⟨hne, hdigits⟩)
  · rintro (rfl | ⟨-, hdigits⟩)
    · rfl
    · exact hdigits

def barred (amount : Text) : List (Text × Datum) :=
  [("amount", .text amount), ("on", .list (["[x]", "2|on=3"].map .text))]

theorem isSeparated_barred {amount : Text} (unlisted : ∀ s : Text, amount ≠ "[" ++ s ++ "]")
    (hclear : ¬ mark "on" <:+: amount.toList) : IsSeparated ["amount", "on"] (barred amount) := by
  have hon : IsDistinct (.list (["[x]", "2|on=3"].map .text)) := .texts (by decide) (by decide)
  have hmark : IsClear (mark "on") amount.toList := (isClear_mark_iff (by decide)).2 hclear
  exact ⟨List.forall_mem_cons.2 ⟨.text unlisted, List.forall_mem_singleton.2 hon⟩,
    List.isChain_cons_cons.2 ⟨hmark, List.isChain_singleton _⟩⟩

theorem text_separates_barred :
    ∃ t t', text ["amount", "on"] (barred "1|on") = .ok t ∧
      text ["amount", "on"] (barred "1") = .ok t' ∧ t ≠ t' ∧
      ∀ s s', t.string? = some s → t'.string? = some s' →
        (ofInputs ["amount", "on"] (barred "1|on") = ofInputs ["amount", "on"] (barred "1") ↔
          Collides s s') := by
  have hhead (amount s : Text) (h : amount = "[" ++ s ++ "]") :
      amount.toList.head? = some (.char '[') := by
    rw [h]
    rfl
  have hbarred : IsSeparated ["amount", "on"] (barred "1|on") :=
    isSeparated_barred (fun s h => absurd (hhead _ s h) (by decide)) (by decide)
  have hplain : IsSeparated ["amount", "on"] (barred "1") :=
    isSeparated_barred (fun s h => absurd (hhead _ s h) (by decide)) (by decide)
  have hne : ¬ ∀ f ∈ (["amount", "on"] : List Text), input (barred "1|on") f = input (barred "1") f :=
    fun h => absurd (Datum.text.inj (h "amount" (by decide))) (by decide)
  obtain ⟨t, t', ht, ht', heq, hprint⟩ := text_separates hbarred hplain
  exact ⟨t, t', ht, ht', fun h => hne (heq.1 h),
    fun s s' hs hs' => (hprint s s' hs hs').trans (or_iff_right hne)⟩

/-- A value with a mark in it, a text that looks like a list, a text with a comma in a list and a list
of one empty text are each written like something else. -/
theorem text_of_mark_in_value :
    text ["amount", "on"] [("amount", .text "1|on=2"), ("on", .text "3")] =
        .ok "amount=1|on=2|on=3" ∧
      text ["amount", "on"] [("amount", .text "1"), ("on", .text "2|on=3")] =
        .ok "amount=1|on=2|on=3" ∧
      (∃ s, ofInputs ["amount", "on"] [("amount", .text "1|on=2"), ("on", .text "3")] = .ok s ∧
        ofInputs ["amount", "on"] [("amount", .text "1"), ("on", .text "2|on=3")] = .ok s) ∧
      (Datum.text "1|on=2" ≠ .text "1" ∧ Datum.text "3" ≠ .text "2|on=3") ∧
      text ["on"] [("on", .text "[a]")] = text ["on"] [("on", .list [.text "a"])] ∧
      text ["on"] [("on", .list [.text "a,b"])] = text ["on"] [("on", .list [.text "a", .text "b"])] ∧
      text ["on"] [("on", .list [.text ""])] = text ["on"] [("on", .list [])] := by
  have ht : text ["amount", "on"] [("amount", .text "1|on=2"), ("on", .text "3")] =
      .ok "amount=1|on=2|on=3" := by cbv
  have ht' : text ["amount", "on"] [("amount", .text "1"), ("on", .text "2|on=3")] =
      .ok "amount=1|on=2|on=3" := by cbv
  have hplain : (Text.ofString "amount=1|on=2|on=3").IsPlain := Text.isPlain_ofString _
  obtain ⟨s, hs, hprint⟩ := exists_ofInputs ht hplain
  obtain ⟨s', hs', hprint'⟩ := exists_ofInputs ht' hplain
  obtain rfl : s = s' := Option.some.inj (hs.symm.trans hs')
  exact ⟨ht, ht', ⟨_, hprint, hprint'⟩,
    ⟨fun h => absurd (Datum.text.inj h) (by decide), fun h => absurd (Datum.text.inj h) (by decide)⟩,
    by cbv, by cbv, by cbv⟩

/-! ### Inputs that are written alike -/

theorem exists_alike_of_cut {ts : List Text} {t : Text} (ht : t ∈ ts)
    (hcut : Letter.char ',' ∈ t.toList) :
    ∃ ts', ts' ≠ ts ∧ Text.intercalate "," ts' = Text.intercalate "," ts := by
  cases ts with
  | nil => cases ht
  | cons u us =>
      cases us with
      | nil =>
          obtain rfl := List.mem_singleton.1 ht
          obtain ⟨a, b, hab⟩ := List.append_of_mem hcut
          refine ⟨[⟨a⟩, ⟨b⟩], fun h => absurd (congrArg List.length h) (by simp), Text.ext ?_⟩
          simp [Text.intercalate, Text.ofString, hab]
      | cons v us =>
          refine ⟨[Text.intercalate "," (u :: v :: us)],
            fun h => absurd (congrArg List.length h) (by simp), Text.ext ?_⟩
          simp [Text.intercalate]

/-- A text or a list of texts that is not of these forms is written like another one. -/
theorem IsTextual.isDistinct_or (h : IsTextual d) :
    IsDistinct d ∨ ∃ d', IsTextual d' ∧ d' ≠ d ∧ canonical d' = canonical d := by
  cases h with
  | text t =>
      by_cases hlisted : ∃ s : Text, t = "[" ++ s ++ "]"
      · obtain ⟨s, rfl⟩ := hlisted
        refine .inr ⟨.list ([s].map .text), .texts [s], nofun, ?_⟩
        rw [canonical_texts]
        exact congrArg Except.ok (Text.ext (by simp [Text.intercalate]))
      · exact .inl (.text (not_exists.1 hlisted))
  | texts ts =>
      have halike {ts' : List Text} (hne : ts' ≠ ts)
          (heq : Text.intercalate "," ts' = Text.intercalate "," ts) :
          ∃ d', IsTextual d' ∧ d' ≠ .list (ts.map .text) ∧
            canonical d' = canonical (.list (ts.map .text)) := by
        refine ⟨_, .texts ts', fun h => hne ?_, by rw [canonical_texts, canonical_texts, heq]⟩
        exact List.map_injective_iff.2 (fun _ _ => Datum.text.inj) (Datum.list.inj h)
      by_cases huncut : ∀ t ∈ ts, Letter.char ',' ∉ t.toList
      · by_cases hfull : ts = [""]
        · subst hfull
          exact .inr (@halike [] (by decide) rfl)
        · exact .inl (.texts huncut hfull)
      · obtain ⟨t, ht, hcut⟩ : ∃ t ∈ ts, Letter.char ',' ∈ t.toList := by simpa using huncut
        obtain ⟨ts', hne, heq⟩ := exists_alike_of_cut ht hcut
        exact .inr (halike hne heq)

theorem input_cons_self (f : Text) (d : Datum) (inputs : List (Text × Datum)) :
    input ((f, d) :: inputs) f = d := by
  simp [input]

theorem input_cons_of_ne (h : f ≠ g) (d : Datum) (inputs : List (Text × Datum)) :
    input ((f, d) :: inputs) g = input inputs g := by
  simp [input, h]

theorem letters_cons_of_ne (h : f ≠ g) (d : Datum) (inputs : List (Text × Datum)) :
    letters ((f, d) :: inputs) g = letters inputs g := by
  rw [letters, letters, input_cons_of_ne h]

theorem letters_cons_text (f t : Text) (inputs : List (Text × Datum)) :
    letters ((f, .text t) :: inputs) f = t.toList := by
  rw [letters, input_cons_self]
  rfl

theorem isTextual_cons (hd : IsTextual d) (h : ∀ g ∈ fields, IsTextual (input inputs g)) :
    ∀ g ∈ fields, IsTextual (input ((f, d) :: inputs) g) := by
  intro g hg
  by_cases hfg : f = g
  · rwa [← hfg, input_cons_self]
  · rw [input_cons_of_ne hfg]
    exact h g hg

theorem mark_append_body (value : Text → List Letter) (f : Text) (rest : List Text) :
    mark f ++ body value f rest = (f :: rest).flatMap (fun g => mark g ++ value g) := by
  induction rest generalizing f with
  | nil => simp [body]
  | cons g rest ih =>
      rw [body, ih]
      simp only [List.flatMap_cons, List.append_assoc]

theorem text_congr (h : ∀ g ∈ fields, IsTextual (input inputs g))
    (h' : ∀ g ∈ fields, IsTextual (input inputs' g))
    (heq : fields.flatMap (fun g => mark g ++ letters inputs' g) =
      fields.flatMap (fun g => mark g ++ letters inputs g)) :
    text fields inputs' = text fields inputs := by
  cases fields with
  | nil => rfl
  | cons f rest =>
      rw [← mark_append_body, ← mark_append_body, List.append_cancel_left_eq] at heq
      rw [text_eq_body h, text_eq_body h', heq]

/-- One field can have another input with the same letters. -/
theorem exists_text_eq_of_not_isDistinct (h : ∀ g ∈ fields, IsTextual (input inputs g))
    (hf : f ∈ fields) (hd : ¬ IsDistinct (input inputs f)) :
    ∃ inputs', (∀ g ∈ fields, IsTextual (input inputs' g)) ∧
      (∃ g ∈ fields, input inputs' g ≠ input inputs g) ∧
      text fields inputs' = text fields inputs := by
  obtain ⟨d', htextual, hne, heq⟩ := (h f hf).isDistinct_or.resolve_left hd
  have hletters (g : Text) : letters ((f, d') :: inputs) g = letters inputs g := by
    by_cases hfg : f = g
    · rw [← hfg, letters, letters, input_cons_self, heq]
    · exact letters_cons_of_ne hfg ..
  have hinput := isTextual_cons (f := f) htextual h
  refine ⟨(f, d') :: inputs, hinput, ⟨f, hf, ?_⟩, text_congr h hinput ?_⟩
  · rwa [input_cons_self]
  · simp only [hletters]

/-- What a field has behind a mark of the next field can as well stand in the next field. -/
theorem exists_text_eq_of_not_isClear {before after : List Text}
    (hnodup : (before ++ f :: g :: after).Nodup)
    (h : ∀ e ∈ before ++ f :: g :: after, IsTextual (input inputs e))
    (hclear : ¬ IsClear (mark g) (letters inputs f)) :
    ∃ inputs', (∀ e ∈ before ++ f :: g :: after, IsTextual (input inputs' e)) ∧
      (∃ e ∈ before ++ f :: g :: after, input inputs' e ≠ input inputs e) ∧
      text (before ++ f :: g :: after) inputs' = text (before ++ f :: g :: after) inputs := by
  simp only [IsClear, not_forall] at hclear
  obtain ⟨start, moved, hsplit, hmoved⟩ := hclear
  have hfg : f ≠ g := by
    rintro rfl
    simp [List.nodup_append] at hnodup
  let inputs' := (f, Datum.text ⟨start⟩) :: (g, .text ⟨moved ++ letters inputs g⟩) :: inputs
  have hf : letters inputs' f = start := letters_cons_text ..
  have hg : letters inputs' g = moved ++ letters inputs g :=
    (letters_cons_of_ne hfg ..).trans (letters_cons_text ..)
  have hothers {es : List Text} (hes : ∀ e ∈ es, f ≠ e ∧ g ≠ e) :
      es.flatMap (fun e => mark e ++ letters inputs' e) =
        es.flatMap (fun e => mark e ++ letters inputs e) := by
    refine List.flatMap_congr (fun e he => ?_)
    rw [letters_cons_of_ne (hes e he).1, letters_cons_of_ne (hes e he).2]
  have hbefore : ∀ e ∈ before, f ≠ e ∧ g ≠ e := by grind
  have hafter : ∀ e ∈ after, f ≠ e ∧ g ≠ e := by grind
  have hinput := isTextual_cons (f := f) (.text ⟨start⟩)
    (isTextual_cons (f := g) (.text ⟨moved ++ letters inputs g⟩) h)
  refine ⟨inputs', hinput, ⟨f, by simp, fun heq => hmoved ?_⟩, text_congr h hinput ?_⟩
  · -- with the old input nothing would have been moved
    rw [letters, ← heq, ← letters, hf, List.append_cancel_left_eq] at hsplit
    exact List.append_right_eq_self.1 hsplit.symm
  · simp only [List.flatMap_append, List.flatMap_cons, hothers hbefore, hothers hafter, hf, hg,
      List.append_assoc]
    rw [← List.append_assoc (letters inputs f), hsplit]
    simp only [List.append_assoc]

/-- None of the conditions can be left out: texts and lists of texts that do not meet them are written
like others. -/
theorem exists_text_eq_of_not_isSeparated (hnodup : fields.Nodup)
    (htextual : ∀ g ∈ fields, IsTextual (input inputs g)) (h : ¬ IsSeparated fields inputs) :
    ∃ inputs', (∀ g ∈ fields, IsTextual (input inputs' g)) ∧
      (∃ g ∈ fields, input inputs' g ≠ input inputs g) ∧
      text fields inputs' = text fields inputs := by
  by_cases hclear : fields.IsChain (fun f g => IsClear (mark g) (letters inputs f))
  · obtain ⟨f, hf, hd⟩ : ∃ f ∈ fields, ¬ IsDistinct (input inputs f) := by
      by_contra! hdistinct
      exact h ⟨hdistinct, hclear⟩
    exact exists_text_eq_of_not_isDistinct htextual hf hd
  · rw [List.isChain_iff_forall_rel_of_append_cons_cons] at hclear
    push Not at hclear
    obtain ⟨f, g, before, after, rfl, hfg⟩ := hclear
    exact exists_text_eq_of_not_isClear hnodup htextual hfg

end Appraisal.Fingerprint
