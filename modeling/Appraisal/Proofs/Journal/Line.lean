import Appraisal.Journal.Record
import Appraisal.Proofs.Json.Spelling

/-!
# What a line says

The line of a record without a report is JSON on a single line. It is read back as a mapping in which
the level, the logger and the message are those of the record and every bound field has its value. No
further field replaces one of these, and every other one has its value, but a moment in it is displayed
with a blank where its plain text has a T. The main statement: `Record.exists_line`.
-/

namespace Appraisal

open Outcome Text

namespace Datum

inductive HoldsMoment : Datum → Prop
  | moment (t : Moment) : HoldsMoment (.moment t)
  | list {ds : List Datum} {d : Datum} (hd : d ∈ ds) (h : HoldsMoment d) : HoldsMoment (.list ds)
  | tuple {ds : List Datum} {d : Datum} (hd : d ∈ ds) (h : HoldsMoment d) :
      HoldsMoment (.tuple ds)
  | value {es : List (Datum × Datum)} {e : Datum × Datum} (he : e ∈ es) (h : HoldsMoment e.2) :
      HoldsMoment (.map es)

theorem holdsMoment_object_iff {fs : List (Text × Datum)} :
    HoldsMoment (.object fs) ↔ ∃ f ∈ fs, HoldsMoment f.2 := by
  constructor
  · rintro (_ | _ | _ | ⟨he, h⟩)
    obtain ⟨f, hf, rfl⟩ := List.mem_map.1 he
    exact ⟨f, hf, h⟩
  · rintro ⟨f, hf, h⟩
    exact .value (List.mem_map_of_mem hf) h

end Datum

namespace Journal

open Json

/-! ### Moments -/

theorem converts_displayed : Converts displayed := by
  rintro _ (n | d | t | d)
  · exact ⟨_, rfl⟩
  · exact ⟨_, rfl⟩
  · exact ⟨_, rfl⟩
  · exact ⟨_, rfl⟩

theorem converts_plainText : Converts plainText := by
  rintro _ (n | d | t | d)
  · exact ⟨_, rfl⟩
  · exact ⟨_, rfl⟩
  · exact ⟨_, rfl⟩
  · exact ⟨_, rfl⟩

theorem spacedText_ne_text (t : Moment) : t.spacedText ≠ t.text := by
  intro h
  have hchars : t.chars ' ' = t.chars 'T' := by
    have htext := congrArg String.toList h
    rwa [Moment.spacedText, Moment.text, String.toList_ofList, String.toList_ofList] at htext
  unfold Moment.chars at hchars
  simp at hchars

theorem ofString_inj {s t : String} (h : Text.ofString s = Text.ofString t) : s = t := by
  have hstring := congrArg Text.string? h
  rw [string?_ofString, string?_ofString] at hstring
  exact Option.some.inj hstring

/-- Displayed data differ from the plain ones in the moments only. -/
theorem spelled_displayed_eq_iff {d : Datum} (h : d.IsWritable) :
    spelled displayed d = spelled plainText d ↔ ¬ d.HoldsMoment := by
  have hitems {ds : List Datum}
      (ih : ∀ d ∈ ds, spelled displayed d = spelled plainText d ↔ ¬ d.HoldsMoment) :
      spelledItems displayed ds = spelledItems plainText ds ↔ ∀ d ∈ ds, ¬ d.HoldsMoment := by
    rw [spelledItems_eq_map, spelledItems_eq_map, List.map_inj_left]
    exact forall₂_congr ih
  induction h with
  | null => exact iff_of_true rfl nofun
  | truth b => exact iff_of_true rfl nofun
  | whole short => exact iff_of_true rfl nofun
  | double finite => exact iff_of_true rfl nofun
  | text unpaired => exact iff_of_true rfl nofun
  | foreign hforeign =>
      cases hforeign with
      | uuid n => exact iff_of_true rfl nofun
      | date d => exact iff_of_true rfl nofun
      | decimal d => exact iff_of_true rfl nofun
      | moment t =>
          refine iff_of_false (fun heq => ?_) (fun hnone => hnone (.moment t))
          exact spacedText_ne_text t (ofString_inj (Datum.text.inj heq))
  | @list ds items ih =>
      rw [spelled, spelled, Datum.list.injEq, hitems ih]
      constructor
      · rintro hnone (_ | ⟨hd, h⟩)
        exact hnone _ hd h
      · exact fun hnone d hd h => hnone (.list hd h)
  | @tuple ds items ih =>
      rw [spelled, spelled, Datum.list.injEq, hitems ih]
      constructor
      · rintro hnone (_ | _ | ⟨hd, h⟩)
        exact hnone _ hd h
      · exact fun hnone d hd h => hnone (.tuple hd h)
  | @object fs keys nodup values ih =>
      rw [spelled_object, spelled_object, Datum.holdsMoment_object_iff]
      have hfields : Datum.object (fs.map (fun f => (f.1, spelled displayed f.2))) =
          .object (fs.map (fun f => (f.1, spelled plainText f.2))) ↔
            ∀ f ∈ fs, spelled displayed f.2 = spelled plainText f.2 := by
        rw [Datum.object, Datum.object, Datum.map.injEq, List.map_map, List.map_map,
          List.map_inj_left]
        simp
      rw [hfields]
      simp only [not_exists, not_and]
      exact forall₂_congr ih

/-! ### Fields -/

namespace Record

variable {acc fs : List (Text × Datum)} {f : Text × Datum}

theorem any_name_iff {name : Text} :
    (acc.any (fun g => g.1 = name)) = true ↔ name ∈ acc.map Prod.fst := by
  simp [List.any_eq_true]

theorem foldl_put (h : ((acc ++ fs).map Prod.fst).Nodup) : fs.foldl put acc = acc ++ fs := by
  induction fs generalizing acc with
  | nil => rw [List.foldl_nil, List.append_nil]
  | cons f fs ih =>
      have hnew : f.1 ∉ acc.map Prod.fst := fun hmem => by
        rw [List.map_append, List.map_cons] at h
        exact (List.nodup_append.1 h).2.2 f.1 hmem f.1 List.mem_cons_self rfl
      rw [List.foldl_cons, put, if_neg (fun hany => hnew (any_name_iff.1 hany)), ih,
        List.append_assoc, List.singleton_append]
      rwa [List.append_assoc, List.singleton_append]

theorem nodup_foldl_addNew (h : (acc.map Prod.fst).Nodup) :
    ((fs.foldl addNew acc).map Prod.fst).Nodup := by
  induction fs generalizing acc with
  | nil => exact h
  | cons f fs ih =>
      rw [List.foldl_cons]
      refine ih ?_
      unfold addNew
      split
      · exact h
      · rename_i hnew
        rw [any_name_iff] at hnew
        rw [List.map_append, List.map_singleton, List.nodup_append]
        refine ⟨h, List.nodup_singleton _, fun a ha b hb => ?_⟩
        rw [List.mem_singleton.1 hb]
        rintro rfl
        exact hnew ha

/-- The name of a field belongs to the first that claims it. -/
theorem mem_foldl_addNew :
    f ∈ fs.foldl addNew acc ↔
      f ∈ acc ∨ (f.1 ∉ acc.map Prod.fst ∧ fs.lookup f.1 = some f.2) := by
  induction fs generalizing acc with
  | nil => simp
  | cons g fs ih =>
      obtain ⟨name, v⟩ := f
      obtain ⟨name', v'⟩ := g
      rw [List.foldl_cons, ih, List.lookup_cons]
      unfold addNew
      by_cases htaken : name' ∈ acc.map Prod.fst
      · rw [if_pos (any_name_iff.2 htaken)]
        by_cases hname : name = name'
        · subst hname
          simp [htaken]
        · rw [show (name == name') = false from beq_eq_false_iff_ne.2 hname]
      · rw [if_neg (fun hany => htaken (any_name_iff.1 hany))]
        by_cases hname : name = name'
        · subst hname
          have hnot (w : Datum) : (name, w) ∉ acc := fun hmem =>
            htaken (List.mem_map_of_mem (f := Prod.fst) hmem)
          simp [htaken, hnot, eq_comm]
        · rw [show (name == name') = false from beq_eq_false_iff_ne.2 hname]
          simp [hname]

theorem lookup_filter {p : Text → Bool} {name : Text} (h : p name = true) :
    (fs.filter (fun f => p f.1)).lookup name = fs.lookup name := by
  induction fs with
  | nil => rfl
  | cons f fs ih =>
      obtain ⟨name', v⟩ := f
      by_cases hname : name = name'
      · subst hname
        rw [List.filter_cons, if_pos h, List.lookup_cons_self, List.lookup_cons_self]
      · have hne : (name == name') = false := beq_eq_false_iff_ne.2 hname
        rw [List.filter_cons, List.lookup_cons, hne]
        split
        · rw [List.lookup_cons, hne, ih]
        · exact ih

/-! ### Lines -/

variable {r : Record} {time : Text}

theorem sublist_bound (b : Bindings) :
    (b.toList.map Prod.fst).Sublist (BoundField.all.map (fun f => (f.name : Text))) := by
  unfold Bindings.toList
  generalize BoundField.all = l
  induction l with
  | nil => exact .slnil
  | cons f l ih =>
      rw [List.filterMap_cons]
      cases b f with
      | none => exact ih.cons _
      | some v => exact ih.cons_cons _

/-- The names of the record itself and of the bindings are different ones. -/
theorem nodup_own_bound (r : Record) (time : Text) :
    ((r.own time ++ r.bound).map Prod.fst).Nodup := by
  have hall : (["ts", "level", "logger", "message"].map Text.ofString ++
      BoundField.all.map (fun f => (f.name : Text))).Nodup := by decide
  rw [List.map_append]
  exact hall.sublist ((List.Sublist.refl _).append (sublist_bound r.bindings))

theorem isPlain_own_bound : ∀ f ∈ r.own time ++ r.bound, f.1.IsPlain := by
  intro f hf
  rcases List.mem_append.1 hf with hf | hf
  · simp only [own, List.mem_cons, List.not_mem_nil, or_false] at hf
    rcases hf with rfl | rfl | rfl | rfl <;> exact isPlain_ofString _
  · have hname : f.1 ∈ BoundField.all.map (fun f => (f.name : Text)) :=
      (sublist_bound r.bindings).subset (List.mem_map_of_mem hf)
    obtain ⟨b, -, hb⟩ := List.mem_map.1 hname
    rw [← hb]
    exact isPlain_ofString _

theorem payload_eq (h : r.report = none) :
    r.payload time = r.further.foldl addNew (r.own time ++ r.bound) := by
  rw [payload, h, foldl_put (nodup_own_bound r time)]

/-- A record whose texts hold no pair of surrogates and whose data are writable. -/
structure IsLoggable (r : Record) : Prop where
  label : r.label.IsWritable
  logger : r.logger.IsUnpaired
  message : r.message.IsUnpaired
  bound : ∀ f ∈ r.bound, f.2.IsWritable
  names : ∀ f ∈ r.further, f.1.IsUnpaired
  further : ∀ f ∈ r.further, f.2.IsWritable

theorem IsLoggable.payload (h : r.IsLoggable) (hreport : r.report = none)
    (htime : time.IsUnpaired) : (Datum.object (r.payload time)).IsWritable := by
  have hmem (f : Text × Datum) (hf : f ∈ r.payload time) :
      f ∈ r.own time ++ r.bound ∨ f ∈ r.further := by
    rw [payload_eq hreport, mem_foldl_addNew] at hf
    exact hf.imp_right (fun hf => mem_of_lookup hf.2)
  refine .object (fun f hf => ?_) ?_ (fun f hf => ?_)
  · rcases hmem f hf with hf | hf
    · exact isUnpaired_of_isPlain (isPlain_own_bound f hf)
    · exact h.names f hf
  · rw [payload_eq hreport]
    exact nodup_foldl_addNew (nodup_own_bound r time)
  · rcases hmem f hf with hf | hf
    · rcases List.mem_append.1 hf with hf | hf
      · simp only [own, List.mem_cons, List.not_mem_nil, or_false] at hf
        rcases hf with rfl | rfl | rfl | rfl
        · exact .text htime
        · exact h.label
        · exact .text h.logger
        · exact .text h.message
      · exact h.bound f hf
    · exact h.further f hf

/-- What the fields of a line say of a record: the level, the logger and the message are those of the
record and every bound field has its value. Every further field whose name is free has its value, as
it is displayed; what its encoding as plain text is read as stands there exactly if the value holds no
moment. There are no other fields. -/
structure Says (r : Record) (time : Text) (fs : List (Text × Datum)) : Prop where
  nodup : (fs.map Prod.fst).Nodup
  stamp : fs.lookup ("ts" : Text) = some (.text time)
  level : fs.lookup ("level" : Text) = some (spelled displayed r.label)
  logger : fs.lookup ("logger" : Text) = some (.text r.logger)
  message : fs.lookup ("message" : Text) = some (.text r.message)
  bound : ∀ f ∈ r.bound, fs.lookup f.1 = some (spelled displayed f.2)
  further : ∀ name v, r.fields.lookup name = some v → name ∉ hiddenNames →
    name ∉ (r.own time ++ r.bound).map Prod.fst →
      fs.lookup name = some (spelled displayed v) ∧
        ∃ s plain, encode v = .ok s ∧ read? s = some plain ∧
          (fs.lookup name = some plain ↔ ¬ v.HoldsMoment)
  only : ∀ f ∈ fs, f.1 ∈ (r.own time ++ r.bound).map Prod.fst ∨
    f.1 ∉ hiddenNames ∧ ∃ v, r.fields.lookup f.1 = some v

theorem lookup_further {name : Text} (h : name ∉ hiddenNames) :
    r.further.lookup name = r.fields.lookup name :=
  lookup_filter (p := fun name => !hiddenNames.contains name) (by simpa using h)

theorem not_mem_hiddenNames (hf : f ∈ r.further) : f.1 ∉ hiddenNames := by
  have hshown := (List.mem_filter.1 hf).2
  simpa using hshown

def found (r : Record) (time : Text) : List (Text × Datum) :=
  (r.payload time).map (fun f => (f.1, spelled displayed f.2))

theorem exists_line_found (h : r.IsLoggable) (hreport : r.report = none)
    (htime : time.IsUnpaired) :
    ∃ line, r.line time = .ok line ∧ IsLine line.toList ∧
      read? line = some (.object (r.found time)) := by
  obtain ⟨line, hline, hrenders⟩ := exists_write (h.payload hreport htime) converts_displayed 0
  rw [spelled_object] at hrenders
  exact ⟨line, hline, hrenders.line, hrenders.reads.read?_eq⟩

section

variable (hreport : r.report = none)
include hreport

theorem nodup_found : ((r.found time).map Prod.fst).Nodup := by
  rw [found, List.map_map, payload_eq hreport]
  exact nodup_foldl_addNew (nodup_own_bound r time)

theorem lookup_found {name : Text} {v : Datum}
    (h : (name, v) ∈ r.own time ++ r.bound ∨
      (name ∉ (r.own time ++ r.bound).map Prod.fst ∧ r.further.lookup name = some v)) :
    (r.found time).lookup name = some (spelled displayed v) := by
  refine lookup_of_mem (nodup_found hreport) (List.mem_map.2 ⟨(name, v), ?_, rfl⟩)
  rw [payload_eq hreport, mem_foldl_addNew]
  exact h

theorem lookup_found_own {name : Text} {v : Datum} (h : (name, v) ∈ r.own time) :
    (r.found time).lookup name = some (spelled displayed v) :=
  lookup_found hreport (.inl (List.mem_append_left r.bound h))

theorem says_found (h : r.IsLoggable) : r.Says time (r.found time) where
  nodup := nodup_found hreport
  stamp := lookup_found_own (v := .text time) hreport (by simp [own])
  level := lookup_found_own hreport (by simp [own])
  logger := lookup_found_own (v := .text r.logger) hreport (by simp [own])
  message := lookup_found_own (v := .text r.message) hreport (by simp [own])
  bound f hf := lookup_found hreport (.inl (List.mem_append_right _ hf))
  further name v hv hname hfree := by
    have hfurther : r.further.lookup name = some v := (lookup_further hname).trans hv
    have hvalue : (r.found time).lookup name = some (spelled displayed v) :=
      lookup_found hreport (.inr ⟨hfree, hfurther⟩)
    have hwritable : v.IsWritable := h.further _ (mem_of_lookup hfurther)
    obtain ⟨s, hs, hplain⟩ := exists_write hwritable converts_plainText 0
    refine ⟨hvalue, s, _, hs, hplain.reads.read?_eq, ?_⟩
    rw [hvalue, Option.some.injEq]
    exact spelled_displayed_eq_iff hwritable
  only f hf := by
    obtain ⟨g, hg, rfl⟩ := List.mem_map.1 hf
    rw [payload_eq hreport, mem_foldl_addNew] at hg
    rcases hg with hg | ⟨hfree, hlookup⟩
    · exact .inl (List.mem_map.2 ⟨g, hg, rfl⟩)
    · have hname : g.1 ∉ hiddenNames := not_mem_hiddenNames (mem_of_lookup hlookup)
      exact .inr ⟨hname, g.2, (lookup_further hname).symm.trans hlookup⟩

end

/-- The line of a record without a report is a mapping on a single line that says what was logged. -/
theorem exists_line (h : r.IsLoggable) (hreport : r.report = none) (htime : time.IsUnpaired) :
    ∃ line fs, r.line time = .ok line ∧ IsLine line.toList ∧
      read? line = some (.object fs) ∧ r.Says time fs := by
  obtain ⟨line, hline, hsingle, hread⟩ := exists_line_found h hreport htime
  exact ⟨line, r.found time, hline, hsingle, hread, says_found hreport h⟩

/-- A record with two further fields: one claims the name of the level, the other is a moment. -/
def ofEpoch : Record where
  level := infoLevel
  logger := "valuation_kernel.x"
  message := "m"
  bindings := Bindings.empty
  fields := [("level", .text "none"), ("at", .moment Moment.epoch)]
  report := none

theorem isLoggable_ofEpoch : ofEpoch.IsLoggable := by
  have hstring (s : String) : (s : Text).IsUnpaired := isUnpaired_of_isPlain (isPlain_ofString s)
  refine ⟨.text (hstring _), hstring _, hstring _, by simp [bound, ofEpoch, Bindings.toList,
    Bindings.empty], fun f hf => ?_, fun f hf => ?_⟩
  all_goals
    replace hf := (List.mem_filter.1 hf).1
    simp only [ofEpoch, List.mem_cons, List.not_mem_nil, or_false] at hf
    rcases hf with rfl | rfl
  · exact hstring _
  · exact hstring _
  · exact .text (hstring _)
  · exact .foreign (.moment _)

theorem isUnpaired_epoch : Text.IsUnpaired "1970-01-01T00:00:00+00:00" :=
  isUnpaired_of_isPlain (isPlain_ofString _)

theorem exists_line_of_epoch : ofEpoch.IsLoggable ∧ ofEpoch.report = none ∧
    Text.IsUnpaired "1970-01-01T00:00:00+00:00" ∧
    ∃ line fs, ofEpoch.line "1970-01-01T00:00:00+00:00" = .ok line ∧ IsLine line.toList ∧
      read? line = some (.object fs) ∧ ofEpoch.Says "1970-01-01T00:00:00+00:00" fs :=
  ⟨isLoggable_ofEpoch, rfl, isUnpaired_epoch, exists_line isLoggable_ofEpoch rfl isUnpaired_epoch⟩

/-- The moment stands in the line as it is displayed, not as its plain text. -/
theorem not_plain_of_epoch :
    ¬ ∀ line fs s plain, ofEpoch.line "1970-01-01T00:00:00+00:00" = .ok line →
      read? line = some (.object fs) → encode (.moment Moment.epoch) = .ok s →
        read? s = some plain → fs.lookup ("at" : Text) = some plain := by
  intro h
  obtain ⟨line, hline, -, hread⟩ := exists_line_found isLoggable_ofEpoch rfl isUnpaired_epoch
  obtain ⟨s, hs, hplain⟩ := exists_write (.foreign (.moment Moment.epoch)) converts_plainText 0
  have hfound := h line _ s _ hline hread hs hplain.reads.read?_eq
  have hat : (ofEpoch.found "1970-01-01T00:00:00+00:00").lookup ("at" : Text) =
      some (.text Moment.epoch.spacedText) := rfl
  rw [hat] at hfound
  exact spacedText_ne_text _ (ofString_inj (Datum.text.inj (Option.some.inj hfound)))

end Record

end Journal

end Appraisal
