import Appraisal.Proofs.Journal.Writing
import Appraisal.Proofs.Valuation.Validation
import Appraisal.Valuation.Store

/-!
# Transcripts of a store

Work at a store ends with an outcome and leaves a store. What it has installed stays installed when it
fails, so a reload is atomic only because it installs nothing before all that can fail is done.

A store is asked for its configuration, for the rules or the currency of it, and to be updated, in any
order. A transcript holds the requests with their answers. Every answer fits the configuration that the
last update before it has installed, and an update that fails could be left out. The main statement:
`exists_isAtomic`.
-/

namespace Appraisal

open Outcome Journaled StoreWork

/-! ### Work at a store -/

namespace StoreWork

variable {ε δ α β : Type} {s s₁ s' : ConfigurationStore}

/-- From a store the work ends with an outcome and leaves a store, whatever has been written before. -/
def Leads (x : StoreWork ε α) (s : ConfigurationStore) (r : Except ε α) (s' : ConfigurationStore) :
    Prop :=
  ∀ j, (x.run s j).1 = (r, s')

theorem leads_pure (a : α) (s : ConfigurationStore) :
    Leads (pure a : StoreWork ε α) s (.ok a) s := fun _ => rfl

theorem leads_ofJournaled {x : Journaled ε α} {r : Except ε α} (h : Yields x r)
    (s : ConfigurationStore) : Leads (ofJournaled x) s r s :=
  fun j => congrArg (·, s) (h j)

theorem leads_current (s : ConfigurationStore) :
    Leads (current : StoreWork ε Configuration) s (.ok s.current) s := fun _ => rfl

theorem leads_install (c : Configuration) (s : ConfigurationStore) :
    Leads (install c : StoreWork ε Unit) s (.ok ()) ⟨c⟩ := fun _ => rfl

theorem leads_note (message : Text) (fields : List (Text × Datum)) (s : ConfigurationStore) :
    Leads (note message fields : StoreWork ε Unit) s (.ok ()) s :=
  leads_ofJournaled (yields_note _ _ _ _ _) s

theorem Leads.unique {x : StoreWork ε α} {r r' : Except ε α} (h : Leads x s r s')
    (h' : Leads x s r' s₁) : r = r' ∧ s' = s₁ :=
  Prod.mk.inj ((h empty).symm.trans (h' empty))

theorem Leads.outcome {x : StoreWork ε α} {r : Except ε α} (h : Leads x s r s') :
    Leads (outcome x : StoreWork δ (Except ε α)) s (.ok r) s' :=
  fun j => congrArg (fun q => (Except.ok q.1, q.2)) (h j)

theorem run_bind (x : StoreWork ε α) (f : α → StoreWork ε β) (s : ConfigurationStore)
    (j : JournalState) : (x >>= f).run s j =
      ExceptT.bindCont f (x.run s j).1.1 (x.run s j).1.2 (x.run s j).2 := rfl

theorem Leads.bind {x : StoreWork ε α} {f : α → StoreWork ε β} {a : α} {r : Except ε β}
    (hx : Leads x s (.ok a) s₁) (hf : Leads (f a) s₁ r s') : Leads (x >>= f) s r s' := by
  intro j
  rw [run_bind, hx j]
  exact hf _

theorem Leads.bind_error {x : StoreWork ε α} {e : ε} (f : α → StoreWork ε β)
    (hx : Leads x s (.error e) s') : Leads (x >>= f) s (.error e) s' := by
  intro j
  rw [run_bind, hx j]
  rfl

end StoreWork

/-! ### Loading -/

namespace Configuration

def Passes (c : Configuration) : Prop :=
  ∃ v, Yields (Validation.ofConfiguration c) (.ok v) ∧ v.isValid = true

theorem passes_empty : empty.Passes := by
  obtain ⟨v, found, hv, herrors, hfound⟩ := Validation.exists_ofConfiguration empty
  refine ⟨v, hv, ?_⟩
  cases hfound
  unfold Validation.isValid
  rw [herrors]
  rfl

variable (read : DocumentReader)

/-- Does a file hold a configuration that passes? -/
def Holds (path : Text) (content : Except FileError String) (c : Configuration) : Prop :=
  ofContent read path content = .ok c ∧ c.Passes

theorem yields_recordWarnings (source : Text) (ws : List Text) :
    Yields (recordWarnings source ws) (.ok ()) := by
  induction ws with
  | nil => exact yields_pure ()
  | cons w ws ih => exact (yields_note _ _ _ _ _).bind (g := fun _ => .ok ()) (fun _ _ => ih)

/-- A configuration that has been read is loaded if it passes. -/
theorem exists_load_of_ofContent {path : Text} {content : Except FileError String}
    {c : Configuration} (h : ofContent read path content = .ok c) :
    ∃ v, Yields (Validation.ofConfiguration c) (.ok v) ∧ Yields (load read path content)
      (if v.isValid then .ok c else .error (.invalid v.errors c.source)) := by
  obtain ⟨v, found, hv, -⟩ := Validation.exists_ofConfiguration c
  refine ⟨v, hv, ?_⟩
  let r : Except ConfigurationError Configuration :=
    if v.isValid then .ok c else .error (.invalid v.errors c.source)
  have hread : Yields (lift (ofContent read path content)) (.ok c) := h ▸ yields_lift _
  refine hread.bind (g := fun _ => r) (fun c' hc' => ?_)
  obtain rfl := Except.ok.inj hc'
  refine (hv.mapFault _).bind (g := fun _ => r) (fun v' hv' => ?_)
  obtain rfl := Except.ok.inj hv'
  refine (yields_recordWarnings _ _).bind (g := fun _ => r) (fun _ _ => ?_)
  by_cases hvalid : v.isValid = true
  · simp only [r, hvalid, if_true]
    exact (yields_note _ _ _ _ _).bind (g := fun _ => .ok c) (fun _ _ => yields_pure c)
  · simp only [r, hvalid]
    exact yields_throw _

/-- Loading a file gives the configuration that it holds, and fails if it holds none. -/
theorem exists_load (path : Text) (content : Except FileError String) :
    ∃ r, Yields (load read path content) r ∧ ∀ c, r = .ok c ↔ Holds read path content c := by
  cases hcontent : ofContent read path content with
  | error e =>
      have hlift : Yields (lift (ofContent read path content)) (.error e) := hcontent ▸ yields_lift _
      refine ⟨.error e, hlift.bind (g := fun _ => .error e) (fun c hc => by cases hc), fun c => ?_⟩
      simp [Holds, hcontent]
  | ok c =>
      obtain ⟨v, hv, hload⟩ := exists_load_of_ofContent read hcontent
      have hpasses : c.Passes ↔ v.isValid = true := by
        refine ⟨fun ⟨v', hv', hvalid⟩ => ?_, fun hvalid => ⟨v, hv, hvalid⟩⟩
        obtain rfl := Except.ok.inj (hv.unique hv')
        exact hvalid
      refine ⟨_, hload, fun c' => ?_⟩
      unfold Holds
      rw [hcontent, Except.ok.injEq]
      by_cases hvalid : v.isValid = true
      · rw [if_pos hvalid, Except.ok.injEq]
        exact ⟨fun h => ⟨h, h ▸ hpasses.2 hvalid⟩, And.left⟩
      · rw [if_neg hvalid]
        constructor
        · intro h
          cases h
        · rintro ⟨rfl, hc⟩
          exact absurd (hpasses.1 hc) hvalid

end Configuration

namespace ConfigurationStore

/-! ### Requests and answers -/

/-- What can be done to a store: to give it a configuration, or to let it read one from a file. -/
inductive Update
  | replace (c : Configuration)
  | reload (path : Text) (content : Except FileError String)

inductive Request
  | current
  | rules
  | currency
  | update (u : Update)

inductive Answer
  | configuration (c : Configuration)
  | rules (rs : List Rule)
  | currency (currency : Text)
  | failure (e : ConfigurationError)

structure Exchange where
  request : Request
  answer : Answer

section

variable {ε : Type} (read : DocumentReader)

def Update.perform : Update → StoreWork ConfigurationError Configuration
  | .replace c => StoreWork.replace c
  | .reload path content => StoreWork.reload read path content

def Request.serve : Request → StoreWork ε Answer
  | .current => return .configuration (← StoreWork.current)
  | .rules => return .rules (← StoreWork.rules)
  | .currency => return .currency (← StoreWork.currency)
  | .update u => do
      match ← StoreWork.outcome (u.perform read) with
      | .ok c => return .configuration c
      | .error e => return .failure e

def session : List Request → StoreWork ε (List Exchange)
  | [] => return []
  | r :: rs => do
      let a ← r.serve read
      let t ← session rs
      return ⟨r, a⟩ :: t

end

/-! ### What a transcript tells -/

def Request.isReplacement : Request → Bool
  | .update (.replace _) => true
  | _ => false

namespace Exchange

def installed? (x : Exchange) : Option Configuration :=
  match x.request, x.answer with
  | .update (.replace c), .configuration _ => some c
  | .update (.reload ..), .configuration c => some c
  | _, _ => none

def handedBack? (x : Exchange) : Option Configuration :=
  match x.request, x.answer with
  | .update (.replace _), .configuration c => some c
  | _, _ => none

/-- The answer fits the configuration that is active: it is read from this one, hands this one back,
or is about the file that a reload has read. -/
inductive Fits (read : DocumentReader) (c : Configuration) : Exchange → Prop
  | current : Fits read c ⟨.current, .configuration c⟩
  | rules : Fits read c ⟨.rules, .rules c.rules⟩
  | currency : Fits read c ⟨.currency, .currency c.currency⟩
  | replaced (c' : Configuration) : Fits read c ⟨.update (.replace c'), .configuration c⟩
  | reloaded {path : Text} {content : Except FileError String} {c' : Configuration}
      (h : Configuration.Holds read path content c') :
      Fits read c ⟨.update (.reload path content), .configuration c'⟩
  | refused {path : Text} {content : Except FileError String} {e : ConfigurationError}
      (hload : Yields (Configuration.load read path content) (.error e))
      (h : ∀ c', ¬ Configuration.Holds read path content c') :
      Fits read c ⟨.update (.reload path content), .failure e⟩

end Exchange

/-- The configurations that have been active, the first one in front. -/
def snapshots (c : Configuration) (t : List Exchange) : List Configuration :=
  c :: t.filterMap Exchange.installed?

def active (c : Configuration) (t : List Exchange) : Configuration :=
  (t.filterMap Exchange.installed?).getLastD c

theorem active_cons (c : Configuration) (x : Exchange) (t : List Exchange) :
    active c (x :: t) = active (x.installed?.getD c) t := by
  unfold active
  cases hx : x.installed? with
  | none => rw [List.filterMap_cons_none hx, Option.getD_none]
  | some c' => rw [List.filterMap_cons_some hx, Option.getD_some, List.getLastD_cons]

theorem active_mem_snapshots (c : Configuration) (t : List Exchange) :
    active c t ∈ snapshots c t := by
  induction t generalizing c with
  | nil => exact List.mem_singleton_self c
  | cons x t ih =>
      rw [active_cons]
      unfold snapshots
      cases hx : x.installed? with
      | none =>
          rw [List.filterMap_cons_none hx]
          exact ih c
      | some c' =>
          rw [List.filterMap_cons_some hx]
          exact List.mem_cons_of_mem c (ih c')

variable {ε : Type} {read : DocumentReader}

/-- Every answer fits the configuration that is active before it. -/
def IsConsistent (read : DocumentReader) (c : Configuration) (t : List Exchange) : Prop :=
  ∀ before x after, t = before ++ x :: after → x.Fits read (active c before)

theorem isConsistent_nil (c : Configuration) : IsConsistent read c [] := by
  intro before x after h
  simp at h

theorem isConsistent_cons {c : Configuration} {x : Exchange} {t : List Exchange} :
    IsConsistent read c (x :: t) ↔
      x.Fits read c ∧ IsConsistent read (x.installed?.getD c) t := by
  constructor
  · intro h
    refine ⟨h [] x t rfl, fun before y after ht => ?_⟩
    rw [← active_cons]
    exact h (x :: before) y after (by rw [ht]; rfl)
  · rintro ⟨hx, ht⟩ before y after h
    cases before with
    | nil =>
        obtain ⟨rfl, -⟩ := List.cons.inj h
        exact hx
    | cons z before =>
        obtain ⟨rfl, hrest⟩ := List.cons.inj h
        rw [active_cons]
        exact ht before y after hrest

/-! ### One request -/

variable (s : ConfigurationStore)

theorem leads_replace (c : Configuration) :
    Leads (replace c : StoreWork ε Configuration) s (.ok s.current) ⟨c⟩ := by
  unfold replace
  refine (leads_current s).bind ((leads_install c s).bind ?_)
  exact (leads_note _ _ _).bind (leads_pure s.current _)

/-- A configuration that has been loaded is installed. -/
theorem leads_reload {path : Text} {content : Except FileError String} {c : Configuration}
    (h : Yields (Configuration.load read path content) (.ok c)) :
    Leads (reload read path content) s (.ok c) ⟨c⟩ := by
  unfold reload
  refine (leads_ofJournaled h s).bind ((leads_current s).bind ((leads_install c s).bind ?_))
  exact (leads_note _ _ _).bind (leads_pure c _)

/-- When the loading fails nothing has been installed yet. -/
theorem leads_reload_error {path : Text} {content : Except FileError String}
    {e : ConfigurationError} (h : Yields (Configuration.load read path content) (.error e)) :
    Leads (reload read path content) s (.error e) s := by
  unfold reload
  exact (leads_ofJournaled h s).bind_error _

theorem leads_serve_ok {u : Update} {c : Configuration} {s' : ConfigurationStore}
    (h : Leads (u.perform read) s (.ok c) s') :
    Leads (Request.serve read (.update u) : StoreWork ε Answer) s (.ok (.configuration c)) s' :=
  h.outcome.bind (leads_pure _ _)

theorem leads_serve_error {u : Update} {e : ConfigurationError} {s' : ConfigurationStore}
    (h : Leads (u.perform read) s (.error e) s') :
    Leads (Request.serve read (.update u) : StoreWork ε Answer) s (.ok (.failure e)) s' :=
  h.outcome.bind (leads_pure _ _)

/-- A request is answered according to the active configuration, and afterwards the store holds the
one that the exchange installs, if it installs any. -/
theorem exists_serve (read : DocumentReader) (r : Request) :
    ∃ a s', Leads (r.serve read : StoreWork ε Answer) s (.ok a) s' ∧
      (⟨r, a⟩ : Exchange).Fits read s.current ∧
      s'.current = (⟨r, a⟩ : Exchange).installed?.getD s.current := by
  cases r with
  | current => exact ⟨_, s, leads_pure _ _, .current, rfl⟩
  | rules => exact ⟨_, s, leads_pure _ _, .rules, rfl⟩
  | currency => exact ⟨_, s, leads_pure _ _, .currency, rfl⟩
  | update u =>
      cases u with
      | replace c =>
          exact ⟨_, _, leads_serve_ok (u := .replace c) s (leads_replace s c), .replaced c, rfl⟩
      | reload path content =>
          obtain ⟨r, hload, hholds⟩ := Configuration.exists_load read path content
          cases r with
          | ok c =>
              exact ⟨_, _, leads_serve_ok (u := .reload path content) s (leads_reload s hload),
                .reloaded ((hholds c).1 rfl), rfl⟩
          | error e =>
              refine ⟨_, _, leads_serve_error (u := .reload path content) s
                (leads_reload_error s hload), .refused hload (fun c hc => ?_), rfl⟩
              have hok := (hholds c).2 hc
              cases hok

/-! ### Sessions -/

variable {s}

theorem leads_session_cons {s₁ s' : ConfigurationStore} {r : Request} {a : Answer}
    {rs : List Request} {t : List Exchange}
    (hserve : Leads (r.serve read : StoreWork ε Answer) s (.ok a) s₁)
    (hrest : Leads (session read rs : StoreWork ε (List Exchange)) s₁ (.ok t) s') :
    Leads (session read (r :: rs) : StoreWork ε (List Exchange)) s (.ok (⟨r, a⟩ :: t)) s' :=
  hserve.bind (hrest.bind (leads_pure _ s'))

/-- Every session has a transcript, which is consistent, and ends with the active configuration. -/
theorem exists_session (read : DocumentReader) (s : ConfigurationStore) (rs : List Request) :
    ∃ t s', Leads (session read rs : StoreWork ε (List Exchange)) s (.ok t) s' ∧
      t.map Exchange.request = rs ∧ IsConsistent read s.current t ∧
      s'.current = active s.current t := by
  induction rs generalizing s with
  | nil => exact ⟨[], s, leads_pure _ s, rfl, isConsistent_nil _, rfl⟩
  | cons r rs ih =>
      obtain ⟨a, s₁, hserve, hfits, hcurrent⟩ := exists_serve (ε := ε) s read r
      obtain ⟨t, s', hrest, hrequests, hconsistent, hlast⟩ := ih s₁
      refine ⟨⟨r, a⟩ :: t, s', leads_session_cons hserve hrest, ?_, ?_, ?_⟩
      · rw [List.map_cons, hrequests]
      · rw [isConsistent_cons, ← hcurrent]
        exact ⟨hfits, hconsistent⟩
      · rw [active_cons, ← hcurrent, hlast]

theorem exists_of_leads_session_cons {s' : ConfigurationStore} {r : Request} {rs : List Request}
    {x : Exchange} {t : List Exchange}
    (h : Leads (session read (r :: rs) : StoreWork ε (List Exchange)) s (.ok (x :: t)) s') :
    ∃ s₁, Leads (r.serve read : StoreWork ε Answer) s (.ok x.answer) s₁ ∧
      s₁.current = x.installed?.getD s.current ∧
      Leads (session read rs : StoreWork ε (List Exchange)) s₁ (.ok t) s' := by
  obtain ⟨a, s₁, hserve, -, hcurrent⟩ := exists_serve (ε := ε) s read r
  obtain ⟨t', s'', hrest, -⟩ := exists_session (ε := ε) read s₁ rs
  obtain ⟨ht, rfl⟩ := h.unique (leads_session_cons hserve hrest)
  obtain ⟨rfl, rfl⟩ := List.cons.inj (Except.ok.inj ht)
  exact ⟨s₁, hserve, hcurrent, hrest⟩

theorem installed?_of_failure (r : Request) (e : ConfigurationError) :
    (⟨r, .failure e⟩ : Exchange).installed? = none := by
  cases r with
  | update u => cases u <;> rfl
  | _ => rfl

/-- A request that fails can be left out: the other exchanges and the store at the end stay as they
are. -/
theorem leads_session_without {s' : ConfigurationStore} {before after : List Exchange}
    {r : Request} {e : ConfigurationError}
    (h : Leads (session read ((before ++ ⟨r, .failure e⟩ :: after).map Exchange.request) :
      StoreWork ε (List Exchange)) s (.ok (before ++ ⟨r, .failure e⟩ :: after)) s') :
    Leads (session read ((before ++ after).map Exchange.request) : StoreWork ε (List Exchange))
      s (.ok (before ++ after)) s' := by
  induction before generalizing s with
  | nil =>
      obtain ⟨s₁, -, hcurrent, hrest⟩ := exists_of_leads_session_cons h
      rw [installed?_of_failure, Option.getD_none] at hcurrent
      obtain rfl : s₁ = s := congrArg ConfigurationStore.mk hcurrent
      exact hrest
  | cons x before ih =>
      obtain ⟨s₁, hserve, -, hrest⟩ := exists_of_leads_session_cons h
      exact leads_session_cons hserve (ih hrest)

/-! ### Snapshots -/

/-- A store whose first configuration and whose replacements pass only ever holds configurations that
pass. -/
theorem passes_of_mem_snapshots {c : Configuration} {t : List Exchange} (hc : c.Passes)
    (ht : IsConsistent read c t)
    (hreplaced : ∀ x ∈ t, ∀ c', x.request = .update (.replace c') → c'.Passes) :
    ∀ d ∈ snapshots c t, d.Passes := by
  unfold snapshots
  rw [List.forall_mem_cons]
  refine ⟨hc, fun d hd => ?_⟩
  obtain ⟨x, hx, hinstalled⟩ := List.mem_filterMap.1 hd
  obtain ⟨before, after, hsplit⟩ := List.append_of_mem hx
  cases ht before x after hsplit with
  | replaced c' =>
      obtain rfl := Option.some.inj hinstalled
      exact hreplaced _ hx c' rfl
  | reloaded h =>
      obtain rfl := Option.some.inj hinstalled
      exact h.2
  | _ => cases hinstalled

/-- The exchanges that have installed a configuration, each with the one that was active before. -/
def handovers (c : Configuration) (t : List Exchange) : List (Exchange × Configuration) :=
  (t.filter (fun x => x.installed?.isSome)).zip (snapshots c t)

/-- The replacements hand back just what they take the place of. -/
theorem handedBack_eq {c : Configuration} {t : List Exchange} (h : IsConsistent read c t) :
    t.filterMap Exchange.handedBack? =
      ((handovers c t).filter (fun w => w.1.request.isReplacement)).map Prod.snd := by
  induction t generalizing c with
  | nil => rfl
  | cons x t ih =>
      obtain ⟨hx, ht⟩ := isConsistent_cons.1 h
      have hrest := ih ht
      unfold handovers snapshots at hrest ⊢
      cases hx with
      | replaced c' => exact congrArg (c :: ·) hrest
      | _ => exact hrest

/-- When all that is installed comes from replacements, these hand back every configuration but the
one that is still active. -/
theorem handedBack_append_active {c : Configuration} {t : List Exchange} (h : IsConsistent read c t)
    (hall : ∀ x ∈ t, x.installed?.isSome = true → x.request.isReplacement = true) :
    t.filterMap Exchange.handedBack? ++ [active c t] = snapshots c t := by
  induction t generalizing c with
  | nil => rfl
  | cons x t ih =>
      obtain ⟨hx, ht⟩ := isConsistent_cons.1 h
      rw [List.forall_mem_cons] at hall
      have hrest := ih ht hall.2
      rw [active_cons]
      cases hx with
      | replaced c' => exact congrArg (c :: ·) hrest
      | reloaded hholds =>
          have hreplacement := hall.1 rfl
          cases hreplacement
      | _ => exact hrest

/-- What holds of the transcript of requests made of a store: every answer fits what is active by
then, and what is active was installed last. Whatever has failed could be left out. Replacements hand
back what they take the place of, and a store that starts empty and is only reloaded always holds a
configuration that passes. -/
structure IsAtomic (ε : Type) (read : DocumentReader) (s : ConfigurationStore) (rs : List Request)
    (t : List Exchange) (s' : ConfigurationStore) : Prop where
  requests_eq : t.map Exchange.request = rs
  consistent : IsConsistent read s.current t
  current_eq : s'.current = active s.current t
  without : ∀ before r e after, t = before ++ ⟨r, .failure e⟩ :: after →
    Leads (session read ((before ++ after).map Exchange.request) : StoreWork ε (List Exchange))
      s (.ok (before ++ after)) s'
  handedBack_eq : t.filterMap Exchange.handedBack? =
    ((handovers s.current t).filter (fun w => w.1.request.isReplacement)).map Prod.snd
  handedBack_append_active :
    (∀ x ∈ t, x.installed?.isSome = true → x.request.isReplacement = true) →
      t.filterMap Exchange.handedBack? ++ [active s.current t] = snapshots s.current t
  passes : s = .empty → (∀ r ∈ rs, r.isReplacement = false) →
    ∀ before after, t = before ++ after → (active s.current before).Passes

/-- A store answers all requests that are made of it, one after the other, and its transcript is that
of a store whose updates happen as a whole or not at all. -/
theorem exists_isAtomic (read : DocumentReader) (s : ConfigurationStore) (rs : List Request) :
    ∃ t s', Leads (session read rs : StoreWork ε (List Exchange)) s (.ok t) s' ∧
      IsAtomic ε read s rs t s' := by
  obtain ⟨t, s', hsession, hrequests, hconsistent, hcurrent⟩ := exists_session (ε := ε) read s rs
  refine ⟨t, s', hsession, hrequests, hconsistent, hcurrent, ?_, handedBack_eq hconsistent,
    handedBack_append_active hconsistent, ?_⟩
  · intro before r e after ht
    rw [← hrequests, ht] at hsession
    exact leads_session_without hsession
  · intro hempty hreloads before after ht
    have hpasses := passes_of_mem_snapshots (hempty ▸ Configuration.passes_empty) hconsistent
      (fun x hx c' hrequest => by
        have hmem : x.request ∈ rs := hrequests ▸ List.mem_map_of_mem hx
        have hnot := hreloads x.request hmem
        rw [hrequest] at hnot
        cases hnot)
    refine hpasses _ ?_
    have hactive := active_mem_snapshots s.current before
    unfold snapshots at hactive ⊢
    rw [ht, List.filterMap_append]
    rcases List.mem_cons.1 hactive with h | h
    · rw [h]
      exact List.mem_cons_self
    · exact List.mem_cons_of_mem _ (List.mem_append_left _ h)

/-- A reload, one that is refused, a replacement and a read. -/
example :
    let read : DocumentReader := fun _ s =>
      .ok (.map [(.text (.ofString (if s = "" then "custom_valuations" else "default_currency")),
        .text "USD")])
    let usd : Configuration := ⟨"USD", [], "usd.yaml"⟩
    let eur : Configuration := ⟨"EUR", [], ""⟩
    let rs : List Request := [.update (.reload "usd.yaml" (.ok "USD")),
      .update (.reload "bad.yaml" (.ok "")), .update (.replace eur), .current]
    let ended := ((session read rs : StoreWork Fault _).run .empty Journaled.empty).1
    ended.2.current = eur ∧
      ended.1.toOption.map (fun t => (t.map Exchange.installed?, t.map Exchange.handedBack?)) =
        some ([some usd, none, some eur, none], [none, none, some usd, none]) := by
  decide +kernel

end ConfigurationStore

end Appraisal
