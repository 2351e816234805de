import ExportBundle.Config.Basic
import ExportBundle.Proofs.Config.Merge

/-! The configuration that two documents make. A field has the value of the last layer that states
it, whatever is merged below, since no field takes an object. Main statement: there is a
configuration exactly if all parts are right, it then has these values, and otherwise the first part
that is wrong is reported. In one of the documents the objects must not stand too deep in each other
for the two to be merged, and a wrong value that is too deep to be written is reported for that. -/

namespace ExportBundle.Config

open Json (Value)
open Json.Value (isObject)

/-- The members that a layer states; a layer that is no object states none. -/
def stated (layer : Value) : OrderedMap String Value := layer.members?.getD []

/-- The value under a key in the last layer that states it, the defaults being the first layer. -/
def effective (document localDocument : Value) (key : String) : Value :=
  (((stated localDocument).get? key).or
    (((stated document).get? key).or (defaults.get? key))).getD .null

/-- The fields of a configuration. -/
inductive Field where
  | exports
  | out
  | polyfills
  | host
  | minify
  | keepTemp
  deriving DecidableEq, Repr

namespace Field

def key : Field → String
  | .exports => "exports"
  | .out => "out"
  | .polyfills => "polyfills"
  | .host => "host"
  | .minify => "minify"
  | .keepTemp => "keep_temp"

def Takes : Field → Value → Prop
  | .exports, v => ∃ items, v = .arr items ∧ items ≠ []
  | .out, v => ∃ s, v = .str s ∧ s ≠ ""
  | .polyfills, v => ∃ names, v = .ofStrings names ∧ "" ∉ names
  | .host, v => v = .null ∨ ∃ s, v = .str s ∧ s ≠ ""
  | .minify, v => ∃ b, v = .bool b
  | .keepTemp, v => ∃ b, v = .bool b

def error : Field → String → ConfigError
  | .exports => .badExports
  | .out => .badText "out"
  | .polyfills => .badPolyfills
  | .host => .badText "host"
  | .minify => .badFlag "minify"
  | .keepTemp => .badFlag "keep_temp"

theorem not_takes_object (f : Field) {v : Value} (hv : v.isObject = true) : ¬ f.Takes v := by
  cases v with
  | obj members => cases f <;> simp [Takes, Value.ofStrings]
  | _ => cases hv

theorem exists_default (f : Field) :
    ∃ v, defaults.get? f.key = some v ∧ v.isObject = false := by
  cases f <;> exact ⟨_, rfl, rfl⟩

end Field

/-- What is looked at: the documents, and then the fields. -/
inductive Part where
  | document
  | localDocument
  | field (f : Field)
  deriving DecidableEq, Repr

namespace Part

def inOrder : List Part :=
  [.document, .localDocument, .field .exports, .field .out, .field .polyfills, .field .host,
    .field .minify, .field .keepTemp]

def value (document localDocument : Value) : Part → Value
  | .document => document
  | .localDocument => localDocument
  | .field f => effective document localDocument f.key

def Takes : Part → Value → Prop
  | .document, v => v.isObject = true
  | .localDocument, v => v = .null ∨ v.isObject = true
  | .field f, v => f.Takes v

def error : Part → String → ConfigError
  | .document => .notAnObject
  | .localDocument => .localNotAnObject
  | .field f => f.error

end Part

/-! Objects instead of objects -/

/-- A value is the other one, or both are objects. -/
def Resembles (v w : Value) : Prop := v = w ∨ v.isObject = true ∧ w.isObject = true

variable {v w : Value}

theorem overlay_resembles (old : Option Value) (v : Value) : Resembles (overlay old v) v := by
  cases hv : v.isObject with
  | false => exact .inl (overlay_of_not_isObject old hv)
  | true =>
    refine .inr ⟨?_, hv⟩
    cases v with
    | obj members =>
      cases old with
      | none => rfl
      | some u => cases u <;> rfl
    | _ => cases hv

theorem Resembles.eq_of_takes {f : Field} (h : Resembles v w) (hf : f.Takes v ∨ f.Takes w) :
    v = w := by
  rcases h with h | ⟨hv, hw⟩
  · exact h
  · rcases hf with hf | hf
    · exact absurd hf (f.not_takes_object hv)
    · exact absurd hf (f.not_takes_object hw)

/-- No object has a name twice, and in one of the documents objects do not stand too deep in each
other. -/
structure Mergeable [Depths] (document localDocument : Value) : Prop where
  distinct : document.HasDistinctNames
  localDistinct : localDocument.HasDistinctNames
  room : 1 ≤ Depths.merging
  shallow : document.objectDepth ≤ Depths.merging ∨ localDocument.objectDepth ≤ Depths.merging

theorem nodup_keys_nil : (OrderedMap.keys ([] : OrderedMap String Value)).Nodup := List.nodup_nil

theorem field_resembles {members overrides : OrderedMap String Value} (hm : members.keys.Nodup)
    (ho : overrides.keys.Nodup) (f : Field) :
    Resembles (field (mergeMembers (mergeMembers defaults members) overrides) f.key)
      (effective (.obj members) (.obj overrides) f.key) := by
  obtain ⟨d, hdefault, hd⟩ := f.exists_default
  have hinner : (mergeMembers defaults members).get? f.key =
      (members.get? f.key).or (defaults.get? f.key) := by
    rw [get?_mergeMembers hm, hdefault]
    cases members.get? f.key with
    | none => rfl
    | some v => exact congrArg some (overlay_some_of_not_isObject hd v)
  have heffective : effective (.obj members) (.obj overrides) f.key =
      ((overrides.get? f.key).or ((members.get? f.key).or (defaults.get? f.key))).getD .null := rfl
  rw [field, get?_mergeMembers ho, hinner, heffective]
  cases overrides.get? f.key with
  | none => exact .inl rfl
  | some v => exact overlay_resembles _ v

variable {depths : Depths}

theorem layers_eq_ok {members overrides : OrderedMap String Value}
    (h : Mergeable (.obj members) (.obj overrides)) :
    layers (.obj members) (.obj overrides) =
      .ok (mergeMembers (mergeMembers defaults members) overrides) := by
  have hdefaults : (Value.obj defaults).objectDepth ≤ Depths.merging := h.room
  have hshallow := h.shallow.imp_left (objectDepth_mergeMembers_le hdefaults)
  rw [layers, merge_eq_ok (.inl hdefaults)]
  change (merge _ overrides).mapError _ = _
  rw [merge_eq_ok hshallow]
  rfl

theorem layers_null {members : OrderedMap String Value} (h : Mergeable (.obj members) .null) :
    layers (.obj members) .null = .ok (mergeMembers (mergeMembers defaults members) []) := by
  have hdefaults : (Value.obj defaults).objectDepth ≤ Depths.merging := h.room
  rw [layers, merge_eq_ok (.inl hdefaults)]
  rfl

theorem layers_of_deep {members overrides : OrderedMap String Value}
    (h : Depths.merging < mergeDepth (mergeMembers defaults members) overrides) :
    layers (.obj members) (.obj overrides) = .error (.obstacle .tooDeep) := by
  rw [layers]
  rcases merge_cases defaults members with hfirst | hfirst
  · rw [hfirst]
    rfl
  · rw [hfirst]
    change (merge _ _).mapError _ = _
    rw [merge_of_deep h]
    rfl

/-! The checks, one part after the other -/

section Checks

variable {α β : Type} {document localDocument : Value}

def IsRight (document localDocument : Value) (p : Part) : Prop :=
  p.Takes (p.value document localDocument)

def FirstWrong (document localDocument : Value) (parts : List Part) (p : Part) : Prop :=
  ∃ before after, parts = before ++ p :: after ∧ (∀ q ∈ before, IsRight document localDocument q) ∧
    ¬ IsRight document localDocument p

/-- The result is the error about the part, unless its value cannot be written. -/
def Complains [Depths] (document localDocument : Value) (p : Part) (x : Except ConfigError α) :
    Prop :=
  ∃ v, Resembles v (p.value document localDocument) ∧
    x = .error (match v.obstacle? Depths.showing with
      | none => p.error (v.print .literal)
      | some o => .obstacle o)

theorem complains_of {p : Part} {x : Except ConfigError α} {v : Value}
    (hv : Resembles v (p.value document localDocument)) (h : x = .error (complain p.error v)) :
    Complains document localDocument p x := by
  refine ⟨v, hv, ?_⟩
  rw [h, complain, Value.shown]
  cases v.obstacle? Depths.showing <;> rfl

/-- The parts are looked at in turn. If all are right a good result comes out, and otherwise an
error about the first that is wrong. -/
def Checks [Depths] (document localDocument : Value) (parts : List Part) (x : Except ConfigError α)
    (good : α → Prop) : Prop :=
  (∀ p ∈ parts, IsRight document localDocument p) ∧ (∃ a, x = .ok a ∧ good a) ∨
    ∃ p, FirstWrong document localDocument parts p ∧ Complains document localDocument p x

theorem FirstWrong.not_isRight {parts : List Part} {p : Part}
    (h : FirstWrong document localDocument parts p) : ¬ IsRight document localDocument p := by
  obtain ⟨_, _, _, _, hp⟩ := h
  exact hp

theorem FirstWrong.eq {parts : List Part} {p q : Part}
    (hp : FirstWrong document localDocument parts p)
    (hq : FirstWrong document localDocument parts q) : p = q := by
  obtain ⟨before, after, rfl, hbefore, hp⟩ := hp
  obtain ⟨before', after', heq, hbefore', hq⟩ := hq
  -- one of them would stand before the other
  rcases List.append_eq_append_iff.1 heq with
    ⟨_ | ⟨r, rest⟩, hfront, hback⟩ | ⟨_ | ⟨r, rest⟩, hfront, hback⟩
  · exact (List.cons_eq_cons.1 hback).1
  · obtain ⟨rfl, -⟩ := List.cons_eq_cons.1 hback
    exact absurd (hbefore' p (by simp [hfront])) hp
  · exact (List.cons_eq_cons.1 hback).1.symm
  · obtain ⟨rfl, -⟩ := List.cons_eq_cons.1 hback
    exact absurd (hbefore q (by simp [hfront])) hq

theorem checks_pure {a : α} {good : α → Prop} (h : good a) :
    Checks document localDocument [] (pure a) good := .inl ⟨nofun, a, rfl, h⟩

theorem checks_one {p : Part} {x : Except ConfigError α} {good : α → Prop}
    (hok : IsRight document localDocument p → ∃ a, x = .ok a ∧ good a)
    (herror : ¬ IsRight document localDocument p → Complains document localDocument p x) :
    Checks document localDocument [p] x good := by
  by_cases hp : IsRight document localDocument p
  · exact .inl ⟨List.forall_mem_singleton.2 hp, hok hp⟩
  · exact .inr ⟨p, ⟨[], [], rfl, nofun, hp⟩, herror hp⟩

theorem Checks.bind {parts more : List Part} {x : Except ConfigError α}
    {f : α → Except ConfigError β} {good : α → Prop} {fine : β → Prop}
    (hx : Checks document localDocument parts x good)
    (hf : ∀ a, good a → Checks document localDocument more (f a) fine) :
    Checks document localDocument (parts ++ more) (x >>= f) fine := by
  rcases hx with ⟨hright, a, rfl, ha⟩ | ⟨p, ⟨before, after, rfl, hbefore, hp⟩, v, hv, rfl⟩
  · rcases hf a ha with ⟨hmore, hresult⟩ | ⟨p, ⟨before, after, rfl, hbefore, hp⟩, hcomplains⟩
    · exact .inl ⟨List.forall_mem_append.2 ⟨hright, hmore⟩, hresult⟩
    · refine .inr ⟨p, ⟨parts ++ before, after, by simp, ?_, hp⟩, hcomplains⟩
      exact List.forall_mem_append.2 ⟨hright, hbefore⟩
  · exact .inr ⟨p, ⟨before, after ++ more, by simp, hbefore, hp⟩, v, hv, rfl⟩

end Checks

/-! The checks of the fields -/

section Fields

theorem nonEmptyText?_eq_some {s : String} : v.nonEmptyText? = some s ↔ v = .str s ∧ s ≠ "" := by
  cases v with
  | str t =>
    rw [Value.nonEmptyText?, Value.str.injEq]
    split
    · rename_i ht
      rw [String.isEmpty_iff] at ht
      subst ht
      simp [eq_comm]
    · rename_i ht
      rw [String.isEmpty_iff] at ht
      rw [Option.some.injEq]
      exact ⟨fun he => ⟨he, he ▸ ht⟩, fun he => he.1⟩
  | _ => simp [Value.nonEmptyText?]

theorem mapM_nonEmptyText?_eq_some {items : List Value} {names : List String} :
    items.mapM Value.nonEmptyText? = some names ↔ items = names.map Value.str ∧ "" ∉ names := by
  induction items generalizing names with
  | nil => cases names <;> simp
  | cons item r ih =>
    simp only [List.mapM_cons, Option.bind_eq_bind, Option.bind_eq_some_iff, nonEmptyText?_eq_some,
      ih, Option.pure_def, Option.some.injEq]
    constructor
    · rintro ⟨name, ⟨rfl, hname⟩, more, ⟨rfl, hmore⟩, rfl⟩
      exact ⟨rfl, List.not_mem_cons_of_ne_of_not_mem (Ne.symm hname) hmore⟩
    · rintro ⟨hitems, hnames⟩
      cases names with
      | nil => cases hitems
      | cons name more =>
        obtain ⟨rfl, rfl⟩ := List.cons_eq_cons.1 hitems
        exact ⟨name, ⟨rfl, (List.ne_of_not_mem_cons hnames).symm⟩, more,
          ⟨rfl, List.not_mem_of_not_mem_cons hnames⟩, rfl⟩

theorem texts?_eq_some {names : List String} :
    texts? v = some names ↔ v = .ofStrings names ∧ "" ∉ names := by
  cases v with
  | arr items =>
    rw [Value.ofStrings, Value.arr.injEq, ← mapM_nonEmptyText?_eq_some]
    rfl
  | _ => simp [texts?, Value.items?, Value.ofStrings]

variable {α : Type} {document localDocument : Value} {fields : OrderedMap String Value}

/-- The fields have the effective values, or objects instead of objects. -/
def Reflects (document localDocument : Value) (fields : OrderedMap String Value) : Prop :=
  ∀ f : Field, Resembles (field fields f.key) (effective document localDocument f.key)

theorem checks_field {f : Field} {x : Except ConfigError α} (good : Value → α → Prop)
    (hfields : Reflects document localDocument fields)
    (hok : f.Takes (field fields f.key) → ∃ a, x = .ok a ∧ good (field fields f.key) a)
    (herror : ¬ f.Takes (field fields f.key) →
      x = .error (complain f.error (field fields f.key))) :
    Checks document localDocument [.field f] x (good (effective document localDocument f.key)) := by
  refine checks_one (fun hright => ?_) fun hwrong => ?_
  · have heq := (hfields f).eq_of_takes (.inr hright)
    exact heq ▸ hok (heq.symm ▸ hright)
  · refine complains_of (hfields f) (herror fun htakes => hwrong ?_)
    rw [(hfields f).eq_of_takes (.inl htakes)] at htakes
    exact htakes

theorem checks_requiredExports (hfields : Reflects document localDocument fields) :
    Checks document localDocument [.field .exports] (requiredExports fields)
      fun items => effective document localDocument "exports" = .arr items := by
  refine checks_field (fun v items => v = .arr items) hfields ?_ fun hwrong => ?_
  · rintro ⟨items, hitems, hne⟩
    obtain ⟨item, r, rfl⟩ := List.exists_cons_of_ne_nil hne
    exact ⟨item :: r, by rw [requiredExports, show field fields "exports" = _ from hitems], hitems⟩
  · rw [requiredExports]
    split
    · rename_i item r hitems
      exact absurd ⟨_, hitems, List.cons_ne_nil item r⟩ hwrong
    · rfl

theorem requiredText_of_str {key s : String} (h : field fields key = .str s) (hs : s ≠ "") :
    requiredText fields key = .ok s := by
  rw [requiredText, nonEmptyText?_eq_some.2 ⟨h, hs⟩]

theorem requiredText_eq_error {key : String} (h : ∀ s, field fields key = .str s → s = "") :
    requiredText fields key = .error (complain (.badText key) (field fields key)) := by
  rw [requiredText]
  split
  · rename_i s hs
    obtain ⟨hstr, hne⟩ := nonEmptyText?_eq_some.1 hs
    exact absurd (h s hstr) hne
  · rfl

theorem checks_out (hfields : Reflects document localDocument fields) :
    Checks document localDocument [.field .out] (requiredText fields "out")
      fun s => effective document localDocument "out" = .str s := by
  refine checks_field (fun v s => v = .str s) hfields ?_ fun hwrong => ?_
  · rintro ⟨s, hstr, hs⟩
    exact ⟨s, requiredText_of_str hstr hs, hstr⟩
  · exact requiredText_eq_error fun s hstr => by_contra fun hs => hwrong ⟨s, hstr, hs⟩

theorem checks_requiredTexts (hfields : Reflects document localDocument fields) :
    Checks document localDocument [.field .polyfills] (requiredTexts fields "polyfills")
      fun names => effective document localDocument "polyfills" = .ofStrings names := by
  refine checks_field (fun v names => v = .ofStrings names) hfields ?_ fun hwrong => ?_
  · rintro ⟨names, htexts⟩
    have hnames : texts? (field fields "polyfills") = some names := texts?_eq_some.2 htexts
    exact ⟨names, by rw [requiredTexts, hnames], htexts.1⟩
  · rw [requiredTexts]
    split
    · rename_i names hnames
      exact absurd ⟨names, texts?_eq_some.1 hnames⟩ hwrong
    · rfl

theorem checks_host (hfields : Reflects document localDocument fields) :
    Checks document localDocument [.field .host] (optionalText fields "host")
      fun s => effective document localDocument "host" = (s.map Value.str).getD .null := by
  refine checks_field (fun v (s : Option String) => v = (s.map Value.str).getD .null) hfields
    ?_ fun hwrong => ?_
  · rintro (hnull | ⟨s, hstr, hs⟩)
    · exact ⟨none, by rw [optionalText, show field fields "host" = _ from hnull], hnull⟩
    · have hvalue : field fields "host" = .str s := hstr
      refine ⟨some s, ?_, hstr⟩
      rw [optionalText, requiredText_of_str hvalue hs, hvalue]
      rfl
  · obtain ⟨hnull, hstr⟩ := not_or.1 hwrong
    have herror : requiredText fields "host" = _ :=
      requiredText_eq_error fun s h => by_contra fun hs => hstr ⟨s, h, hs⟩
    rw [optionalText, herror]
    split
    · rename_i h
      exact absurd h hnull
    · rfl

theorem bool?_eq_some {b : Bool} : v.bool? = some b ↔ v = .bool b := by
  cases v <;> simp [Value.bool?]

theorem checks_requiredFlag {f : Field} (hfields : Reflects document localDocument fields)
    (htakes : ∀ v, f.Takes v ↔ ∃ b, v = .bool b) (herror : f.error = .badFlag f.key) :
    Checks document localDocument [.field f] (requiredFlag fields f.key)
      fun b => effective document localDocument f.key = .bool b := by
  refine checks_field (fun v b => v = .bool b) hfields (fun hright => ?_) fun hwrong => ?_
  · obtain ⟨b, hb⟩ := (htakes _).1 hright
    exact ⟨b, by rw [requiredFlag, bool?_eq_some.2 hb], hb⟩
  · rw [requiredFlag, herror]
    split
    · rename_i b hb
      exact absurd ((htakes _).2 ⟨b, bool?_eq_some.1 hb⟩) hwrong
    · rfl

end Fields

/-! The configuration -/

section

variable {document localDocument : Value} {root : Path}

/-- The configuration has the effective values, relative paths starting at `root`. -/
structure IsEffective (document localDocument : Value) (root : Path) (c : Config) : Prop where
  exports : effective document localDocument "exports" = .arr c.exports
  out : ∃ s, effective document localDocument "out" = .str s ∧ c.out = root.child s
  polyfills : effective document localDocument "polyfills" = .ofStrings c.polyfills
  host : effective document localDocument "host" = .null ∧ c.host = none ∨
    ∃ s, effective document localDocument "host" = .str s ∧ c.host = some (root.child s)
  minify : effective document localDocument "minify" = .bool c.minify
  keepTemp : effective document localDocument "keep_temp" = .bool c.keepTemp
  root : c.root = root

theorem Checks.cons {α β : Type} {p : Part} {more : List Part} {x : Except ConfigError α}
    {f : α → Except ConfigError β} {good : α → Prop} {fine : β → Prop}
    (hx : Checks document localDocument [p] x good)
    (hf : ∀ a, good a → Checks document localDocument more (f a) fine) :
    Checks document localDocument (p :: more) (x >>= f) fine := hx.bind hf

theorem checks_ofFields {fields : OrderedMap String Value}
    (hfields : Reflects document localDocument fields) :
    Checks document localDocument [.field .exports, .field .out, .field .polyfills, .field .host,
      .field .minify, .field .keepTemp] (ofFields fields root)
      (IsEffective document localDocument root) := by
  refine (checks_requiredExports hfields).cons fun exports hexports => ?_
  refine (checks_out hfields).cons fun out hout => ?_
  refine (checks_requiredTexts hfields).cons fun polyfills hpolyfills => ?_
  refine (checks_host hfields).cons fun host hhost => ?_
  refine (checks_requiredFlag hfields (fun _ => .rfl) rfl).cons fun minify hminify => ?_
  refine (checks_requiredFlag hfields (fun _ => .rfl) rfl).cons fun keepTemp hkeepTemp => ?_
  refine checks_pure ⟨hexports, ⟨out, hout, rfl⟩, hpolyfills, ?_, hminify, hkeepTemp, rfl⟩
  cases host with
  | none => exact .inl ⟨hhost, rfl⟩
  | some s => exact .inr ⟨s, hhost, rfl⟩

theorem checks_layers (h : Mergeable document localDocument) :
    Checks document localDocument [.document, .localDocument] (layers document localDocument)
      (Reflects document localDocument) := by
  cases document with
  | obj members =>
    cases localDocument with
    | null =>
      refine .inl ⟨?_, _, layers_null h, field_resembles h.distinct.nodup nodup_keys_nil⟩
      exact List.forall_mem_cons.2 ⟨rfl, List.forall_mem_singleton.2 (.inl rfl)⟩
    | obj overrides =>
      refine .inl ⟨?_, _, layers_eq_ok h, field_resembles h.distinct.nodup h.localDistinct.nodup⟩
      exact List.forall_mem_cons.2 ⟨rfl, List.forall_mem_singleton.2 (.inr rfl)⟩
    | _ =>
      refine .inr ⟨.localDocument, ⟨[.document], [], rfl, List.forall_mem_singleton.2 rfl, ?_⟩,
        complains_of (.inl rfl) rfl⟩
      rintro (h | h) <;> cases h
  | _ =>
    exact .inr ⟨.document, ⟨[], [.localDocument], rfl, nofun, nofun⟩, complains_of (.inl rfl) rfl⟩

theorem ofDocuments_eq (hroot : root.hasNull = false) (document localDocument : Value) :
    ofDocuments document localDocument root =
      layers document localDocument >>= fun fields => ofFields fields root := by
  rw [ofDocuments]
  simp [hroot]

theorem checks_ofDocuments (hroot : root.hasNull = false) (h : Mergeable document localDocument) :
    Checks document localDocument Part.inOrder (ofDocuments document localDocument root)
      (IsEffective document localDocument root) := by
  rw [ofDocuments_eq hroot]
  exact (checks_layers h).bind fun _ => checks_ofFields

theorem Part.mem_inOrder (p : Part) : p ∈ inOrder := by
  rcases p with _ | _ | f
  · decide
  · decide
  · cases f <;> decide

theorem IsEffective.eq {c c' : Config} (h : IsEffective document localDocument root c)
    (h' : IsEffective document localDocument root c') : c = c' := by
  have hexports : c.exports = c'.exports := Value.arr.inj (h.exports.symm.trans h'.exports)
  have hout : c.out = c'.out := by
    obtain ⟨s, hs, hc⟩ := h.out
    obtain ⟨s', hs', hc'⟩ := h'.out
    rw [hc, hc', Value.str.inj (hs.symm.trans hs')]
  have hpolyfills : c.polyfills = c'.polyfills :=
    List.map_injective_iff.2 (fun _ _ => Value.str.inj)
      (Value.arr.inj (h.polyfills.symm.trans h'.polyfills))
  have hhost : c.host = c'.host := by
    rcases h.host with ⟨hv, hc⟩ | ⟨s, hv, hc⟩ <;> rcases h'.host with ⟨hv', hc'⟩ | ⟨s', hv', hc'⟩
    · rw [hc, hc']
    · cases hv.symm.trans hv'
    · cases hv.symm.trans hv'
    · rw [hc, hc', Value.str.inj (hv.symm.trans hv')]
  have hminify : c.minify = c'.minify := Value.bool.inj (h.minify.symm.trans h'.minify)
  have hkeepTemp : c.keepTemp = c'.keepTemp := Value.bool.inj (h.keepTemp.symm.trans h'.keepTemp)
  have hroot : c.root = c'.root := h.root.trans h'.root.symm
  cases c
  cases c'
  simp_all

end

/-! Other documents with the same result -/

section Others

variable {document localDocument document' localDocument' : Value} {root : Path}

/-- The documents are the same, or both are objects that have the same in the fields. -/
def AgreeOnFields (v w : Value) : Prop :=
  v = w ∨ v.isObject = true ∧ w.isObject = true ∧
    ∀ f : Field, (stated v).get? f.key = (stated w).get? f.key

/-- The documents are right or wrong together, and make the same effective values. -/
structure SameValues (document localDocument document' localDocument' : Value) : Prop where
  documents : document.isObject = document'.isObject
  localDocuments : Part.localDocument.Takes localDocument ↔ Part.localDocument.Takes localDocument'
  fields (f : Field) :
    effective document localDocument f.key = effective document' localDocument' f.key

theorem SameValues.isRight_iff (h : SameValues document localDocument document' localDocument')
    (p : Part) : IsRight document localDocument p ↔ IsRight document' localDocument' p := by
  cases p with
  | document => exact iff_of_eq (congrArg (· = true) h.documents)
  | localDocument => exact h.localDocuments
  | field f => exact iff_of_eq (congrArg f.Takes (h.fields f))

theorem SameValues.isEffective (h : SameValues document localDocument document' localDocument')
    {c : Config} (hc : IsEffective document localDocument root c) :
    IsEffective document' localDocument' root c where
  exports := h.fields .exports ▸ hc.exports
  out := h.fields .out ▸ hc.out
  polyfills := h.fields .polyfills ▸ hc.polyfills
  host := h.fields .host ▸ hc.host
  minify := h.fields .minify ▸ hc.minify
  keepTemp := h.fields .keepTemp ▸ hc.keepTemp
  root := hc.root

theorem SameValues.outcome (h : SameValues document localDocument document' localDocument')
    (hroot : root.hasNull = false) (hmergeable : Mergeable document localDocument)
    (hmergeable' : Mergeable document' localDocument') :
    (∃ c, ofDocuments document localDocument root = .ok c ∧
        ofDocuments document' localDocument' root = .ok c) ∨
      ∃ p, Complains document localDocument p (ofDocuments document localDocument root) ∧
        Complains document' localDocument' p (ofDocuments document' localDocument' root) := by
  rcases checks_ofDocuments hroot hmergeable with ⟨hright, c, hok, hc⟩ | ⟨p, hp, hcomplains⟩ <;>
    rcases checks_ofDocuments hroot hmergeable' with
      ⟨hright', c', hok', hc'⟩ | ⟨p', hp', hcomplains'⟩
  · exact .inl ⟨c, hok, (h.isEffective hc).eq hc' ▸ hok'⟩
  · exact absurd ((h.isRight_iff p').1 (hright p' p'.mem_inOrder)) hp'.not_isRight
  · exact absurd ((h.isRight_iff p).2 (hright' p p.mem_inOrder)) hp.not_isRight
  · have hfirst : FirstWrong document' localDocument' Part.inOrder p := by
      obtain ⟨before, after, hparts, hbefore, hwrong⟩ := hp
      exact ⟨before, after, hparts, fun q hq => (h.isRight_iff q).1 (hbefore q hq),
        mt (h.isRight_iff p).2 hwrong⟩
    exact .inr ⟨p, hcomplains, hfirst.eq hp' ▸ hcomplains'⟩

theorem ofFields_congr {fields fields' : OrderedMap String Value}
    (h : ∀ f : Field, field fields f.key = field fields' f.key) :
    ofFields fields root = ofFields fields' root := by
  have hexports : field fields "exports" = field fields' "exports" := h .exports
  have hout : field fields "out" = field fields' "out" := h .out
  have hpolyfills : field fields "polyfills" = field fields' "polyfills" := h .polyfills
  have hhost : field fields "host" = field fields' "host" := h .host
  have hminify : field fields "minify" = field fields' "minify" := h .minify
  have hkeepTemp : field fields "keep_temp" = field fields' "keep_temp" := h .keepTemp
  simp only [ofFields, requiredExports, requiredText, requiredTexts, optionalText, requiredFlag,
    hexports, hout, hpolyfills, hhost, hminify, hkeepTemp]

theorem field_mergeMembers_congr {members members' overrides overrides' : OrderedMap String Value}
    (hm : members.keys.Nodup) (hm' : members'.keys.Nodup) (ho : overrides.keys.Nodup)
    (ho' : overrides'.keys.Nodup) {key : String} (hmembers : members.get? key = members'.get? key)
    (hoverrides : overrides.get? key = overrides'.get? key) :
    field (mergeMembers (mergeMembers defaults members) overrides) key =
      field (mergeMembers (mergeMembers defaults members') overrides') key := by
  rw [field, field, get?_mergeMembers ho, get?_mergeMembers ho', get?_mergeMembers hm,
    get?_mergeMembers hm', hmembers, hoverrides]

theorem AgreeOnFields.exists_members {members : OrderedMap String Value}
    (h : AgreeOnFields (.obj members) w) : ∃ members' : OrderedMap String Value,
      w = .obj members' ∧ ∀ f : Field, members.get? f.key = members'.get? f.key := by
  rcases h with rfl | ⟨-, hw, hfields⟩
  · exact ⟨members, rfl, fun _ => rfl⟩
  · cases w with
    | obj members' => exact ⟨members', rfl, hfields⟩
    | _ => cases hw

theorem AgreeOnFields.eq_of_not_isObject (h : AgreeOnFields v w) (hv : v.isObject = false) :
    v = w := by
  rcases h with h | ⟨hobject, -⟩
  · exact h
  · rw [hv] at hobject
    cases hobject

theorem AgreeOnFields.ofDocuments_eq (hdocument : AgreeOnFields document document')
    (hlocal : AgreeOnFields localDocument localDocument') (hroot : root.hasNull = false)
    (h : Mergeable document localDocument) (h' : Mergeable document' localDocument') :
    ofDocuments document localDocument root = ofDocuments document' localDocument' root := by
  rw [Config.ofDocuments_eq hroot, Config.ofDocuments_eq hroot]
  cases document with
  | obj members =>
    obtain ⟨members', rfl, hmembers⟩ := hdocument.exists_members
    cases localDocument with
    | obj overrides =>
      obtain ⟨overrides', rfl, hoverrides⟩ := hlocal.exists_members
      rw [layers_eq_ok h, layers_eq_ok h']
      exact ofFields_congr fun f => field_mergeMembers_congr h.distinct.nodup h'.distinct.nodup
        h.localDistinct.nodup h'.localDistinct.nodup (hmembers f) (hoverrides f)
    | null =>
      obtain rfl := hlocal.eq_of_not_isObject rfl
      rw [layers_null h, layers_null h']
      exact ofFields_congr fun f => field_mergeMembers_congr h.distinct.nodup h'.distinct.nodup
        nodup_keys_nil nodup_keys_nil (hmembers f) rfl
    | _ =>
      obtain rfl := hlocal.eq_of_not_isObject rfl
      rfl
  | _ =>
    obtain rfl := hdocument.eq_of_not_isObject rfl
    rfl

/-- There is a configuration exactly if the documents are objects, the local one possibly null, and
every field takes its effective value, the one of the last layer that states it. It then has these
values. Otherwise the first part that is wrong is reported. Keys that are no fields make no
difference, nor does what was merged below the effective values. The root is the path of a directory,
so it has no null character. -/
theorem ofDocuments_by_effective_values (hroot : root.hasNull = false)
    (hmergeable : Mergeable document localDocument) :
    ((∃ c, ofDocuments document localDocument root = .ok c) ↔
      ∀ p, IsRight document localDocument p) ∧
    (∀ c, ofDocuments document localDocument root = .ok c →
      IsEffective document localDocument root c) ∧
    ((¬ ∀ p, IsRight document localDocument p) →
      ∃ p, FirstWrong document localDocument Part.inOrder p ∧
        Complains document localDocument p (ofDocuments document localDocument root)) ∧
    ∀ document' localDocument' : Value, Mergeable document' localDocument' →
      (AgreeOnFields document document' → AgreeOnFields localDocument localDocument' →
        ofDocuments document localDocument root = ofDocuments document' localDocument' root) ∧
      (SameValues document localDocument document' localDocument' →
        (∃ c, ofDocuments document localDocument root = .ok c ∧
            ofDocuments document' localDocument' root = .ok c) ∨
          ∃ p, Complains document localDocument p (ofDocuments document localDocument root) ∧
            Complains document' localDocument' p
              (ofDocuments document' localDocument' root)) := by
  refine and_assoc.1 (and_assoc.1 ⟨?_, fun document' localDocument' hmergeable' =>
    ⟨fun hdocument hlocal => hdocument.ofDocuments_eq hlocal hroot hmergeable hmergeable',
      fun hvalues => hvalues.outcome hroot hmergeable hmergeable'⟩⟩)
  rcases checks_ofDocuments hroot hmergeable with ⟨hright, c, hok, hc⟩ | ⟨p, hp, v, hv, herror⟩
  · have hall : ∀ p, IsRight document localDocument p := fun p => hright p p.mem_inOrder
    refine ⟨⟨iff_of_true ⟨c, hok⟩ hall, fun c' hok' => ?_⟩, fun hwrong => absurd hall hwrong⟩
    rw [hok] at hok'
    exact Except.ok.inj hok' ▸ hc
  · have hnone : ¬ ∃ c, ofDocuments document localDocument root = .ok c := by
      rintro ⟨c, hok⟩
      rw [herror] at hok
      cases hok
    exact ⟨⟨iff_of_false hnone fun hall => hp.not_isRight (hall p),
      fun c hok => absurd ⟨c, hok⟩ hnone⟩, fun _ => ⟨p, hp, v, hv, herror⟩⟩

/-- Objects stand in fields that take none, but only below what counts. -/
def shared : Value := .obj
  [("exports", .obj [("name", .str "web3")]), ("minify", .obj []), ("host", .str "app"),
    ("tools", .obj [("npm", .int 9)])]

def personal : Value := .obj
  [("minify", .bool false), ("exports", .arr [.str "web3"]), ("host", .null),
    ("tools", .obj [("npx", .null)])]

def flat : Value := .obj
  [("exports", .arr [.str "web3"]), ("host", .null), ("minify", .bool false)]

def mistaken : Value := .obj
  [("minify", .int 0), ("exports", .arr [.str "web3"]), ("host", .null)]

theorem ofDocuments_shared_personal :
    let _ : Depths := .ofCalls 900
    Path.hasNull ⟨1, ["project"]⟩ = false ∧ Mergeable shared personal ∧
      Mergeable shared mistaken ∧ SameValues shared personal flat .null ∧
      (∃ c, ofDocuments shared personal ⟨1, ["project"]⟩ = .ok c ∧
        ofDocuments flat .null ⟨1, ["project"]⟩ = .ok c ∧ c.exports = [.str "web3"] ∧
        c.minify = false) ∧
      ∃ p, FirstWrong shared mistaken Part.inOrder p ∧
        Complains shared mistaken p (ofDocuments shared mistaken ⟨1, ["project"]⟩) := by
  intro _
  have hroot : Path.hasNull ⟨1, ["project"]⟩ = false := by decide
  have hexports : (Value.arr [.str "web3"]).HasDistinctNames :=
    .arr (List.forall_mem_singleton.2 (.str _))
  have hshared : shared.HasDistinctNames := by
    refine .obj (by decide) (List.forall_mem_cons.2 ⟨?_, List.forall_mem_cons.2 ⟨?_,
      List.forall_mem_cons.2 ⟨.str _, List.forall_mem_singleton.2 ?_⟩⟩⟩)
    · exact .obj (by decide) (List.forall_mem_singleton.2 (.str _))
    · exact .obj List.nodup_nil nofun
    · exact .obj (by decide) (List.forall_mem_singleton.2 (.int _))
  have hpersonal : personal.HasDistinctNames :=
    .obj (by decide) (List.forall_mem_cons.2 ⟨.bool _, List.forall_mem_cons.2 ⟨hexports,
      List.forall_mem_cons.2 ⟨.null, List.forall_mem_singleton.2
        (.obj (by decide) (List.forall_mem_singleton.2 .null))⟩⟩⟩)
  have hflat : flat.HasDistinctNames :=
    .obj (by decide) (List.forall_mem_cons.2 ⟨hexports, List.forall_mem_cons.2 ⟨.null,
      List.forall_mem_singleton.2 (.bool _)⟩⟩)
  have hmistaken : mistaken.HasDistinctNames :=
    .obj (by decide) (List.forall_mem_cons.2 ⟨.int _, List.forall_mem_cons.2 ⟨hexports,
      List.forall_mem_singleton.2 .null⟩⟩)
  have hroom : 1 ≤ Depths.merging := by decide
  have hshallow : shared.objectDepth ≤ Depths.merging := by decide
  have hlayered : Mergeable shared personal := ⟨hshared, hpersonal, hroom, .inl hshallow⟩
  have hwronged : Mergeable shared mistaken := ⟨hshared, hmistaken, hroom, .inl hshallow⟩
  have hplain : Mergeable flat .null := ⟨hflat, .null, hroom, .inr (Nat.zero_le _)⟩
  have hsame : SameValues shared personal flat .null :=
    ⟨rfl, iff_of_true (.inr rfl) (.inl rfl), fun f => by cases f <;> rfl⟩
  obtain ⟨hexists, hvalues, -, hothers⟩ :=
    ofDocuments_by_effective_values hroot hlayered
  obtain ⟨c, hc⟩ := hexists.2 fun
    | .document => rfl
    | .localDocument => .inr rfl
    | .field .exports => ⟨[.str "web3"], rfl, by simp⟩
    | .field .out => ⟨"dist", rfl, by decide⟩
    | .field .polyfills => ⟨[], rfl, by simp⟩
    | .field .host => .inl rfl
    | .field .minify => ⟨false, rfl⟩
    | .field .keepTemp => ⟨false, rfl⟩
  have hflatc : ofDocuments flat .null ⟨1, ["project"]⟩ = .ok c := by
    rcases (hothers flat .null hplain).2 hsame with
      ⟨c', hc', hflatc⟩ | ⟨_, ⟨_, _, herror⟩, _⟩
    · rwa [Except.ok.inj (hc.symm.trans hc')]
    · cases hc.symm.trans herror
  have hwrong : ¬ ∀ p, IsRight shared mistaken p := by
    intro hall
    obtain ⟨b, hb⟩ := hall (.field .minify)
    cases show Value.int 0 = .bool b from hb
  obtain ⟨-, -, hfirst, -⟩ := ofDocuments_by_effective_values hroot hwronged
  exact ⟨hroot, hlayered, hwronged, hsame, ⟨c, hc, hflatc,
    Value.arr.inj ((hvalues c hc).exports.symm.trans rfl),
    Value.bool.inj ((hvalues c hc).minify.symm.trans rfl)⟩, hfirst hwrong⟩

/-- A thousand and one objects in each other under a key that is no field. -/
def burdened : Value := .obj
  [("exports", .arr [.str "web3"]), ("tools", .obj (nested 1000))]

theorem mergeDepth_burdened {base : OrderedMap String Value}
    (h : base.get? "tools" = some (.obj (nested 1000))) :
    1000 < mergeDepth base [("exports", .arr [.str "web3"]), ("tools", .obj (nested 1000))] := by
  have htools : overlayDepth (base.get? "tools") (.obj (nested 1000)) = 1001 := by
    rw [h]
    exact mergeDepth_nested 1000
  simp only [mergeDepth, htools]
  omega

/-- Nothing is wrong with the two documents, but where there is room for a thousand calls they cannot
be merged. -/
theorem burdened_not_merged : burdened.HasDistinctNames ∧ (∀ p, IsRight burdened burdened p) ∧
    ∀ depths : Depths, depths.merging ≤ 1000 →
      ofDocuments burdened burdened ⟨1, ["project"]⟩ = .error (.obstacle .tooDeep) := by
  refine ⟨.obj (by decide) (List.forall_mem_cons.2 ⟨.arr (List.forall_mem_singleton.2 (.str _)),
    List.forall_mem_singleton.2 (nested_hasDistinctNames 1000)⟩), ?_, fun depths hroom => ?_⟩
  · exact fun
      | .document => rfl
      | .localDocument => .inr rfl
      | .field .exports => ⟨[.str "web3"], rfl, by simp⟩
      | .field .out => ⟨"dist", rfl, by decide⟩
      | .field .polyfills => ⟨[], rfl, by simp⟩
      | .field .host => .inl rfl
      | .field .minify => ⟨true, rfl⟩
      | .field .keepTemp => ⟨false, rfl⟩
  · have hbase : OrderedMap.get? (mergeMembers defaults
        [("exports", .arr [.str "web3"]), ("tools", .obj (nested 1000))]) "tools" =
        some (.obj (nested 1000)) := rfl
    have hdeep := mergeDepth_burdened hbase
    have hlayers : layers burdened burdened = .error (.obstacle .tooDeep) :=
      layers_of_deep (by omega)
    rw [ofDocuments, hlayers]
    rfl

end Others

end ExportBundle.Config
