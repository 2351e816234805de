import ExportBundle.Identifier.Counter
import ExportBundle.Proofs.Export.Reading
import ExportBundle.Proofs.Json.Obstacle

/-! Which documents are accepted. The faults of a document are listed in the order in which they are
met, at most two levels down; reading fails with the first of them, and a document without any is a
list of exports of the accepted shape. A fault shows the value that it is about. Where that cannot be
written, for standing too deep in itself, what keeps it from being written takes the fault's place. -/

namespace ExportBundle.Export

open Identifier (Supply)
open Json (Value)

section Faults

variable [Depths]

def textFaults (error : String → SpecError) (v : Value) : List SpecError :=
  match v.nonEmptyText? with
  | some _ => []
  | none => [complain error (v.shown .spaced)]

def nameFaults (members : OrderedMap String Value) : List SpecError :=
  textFaults .badName ((members.get? "name").getD .null)

def aliasFaults (members : OrderedMap String Value) : List SpecError :=
  match members.get? "alias" with
  | none => []
  | some v => textFaults .badAlias v

def nameText (members : OrderedMap String Value) : String :=
  ((members.get? "name").bind Value.text?).getD ""

/-- What is wrong with the exports of an element, `below` telling what is wrong with the list. -/
def nestedFaults (below : Value → List SpecError) (members : OrderedMap String Value) :
    List SpecError :=
  match members.get? "exports" with
  | none => []
  | some nested =>
    below nested ++
      if members.get? "alias" matches none then [.aliasRequired (nameText members)] else []

def elementFaults (below : Value → List SpecError) : Value → List SpecError
  | .obj members => nameFaults members ++ (aliasFaults members ++ nestedFaults below members)
  | v => [complain .notAnObject (v.shown .spaced)]

/-- All that is wrong with a list of exports whose elements are at `depth`. Below the second level
an element is not looked at any more. -/
def faults (depth : Nat) : Value → List SpecError
  | .arr [] => [.emptyList]
  | .arr items =>
    items.flatMap fun item =>
      if 1 < depth then [.tooDeep depth] else elementFaults (faults (depth + 1)) item
  | v => [complain .notAList (v.shown .spaced)]
termination_by 2 - depth

end Faults

/-! The accepted shape -/

def HasName (members : OrderedMap String Value) : Prop :=
  ∃ s, members.get? "name" = some (.str s) ∧ s ≠ ""

def AliasFits (members : OrderedMap String Value) : Prop :=
  members.get? "alias" = none ∨ ∃ s, members.get? "alias" = some (.str s) ∧ s ≠ ""

def IsListOf (shape : Value → Prop) (v : Value) : Prop :=
  ∃ items, v = .arr items ∧ items ≠ [] ∧ ∀ item ∈ items, shape item

def IsPlainExport (v : Value) : Prop :=
  ∃ members : OrderedMap String Value, v = .obj members ∧ HasName members ∧ AliasFits members ∧
    members.get? "exports" = none

/-- An export that may have plain exports of its own if it has a public name. -/
def IsExport (v : Value) : Prop :=
  ∃ members : OrderedMap String Value, v = .obj members ∧ HasName members ∧ AliasFits members ∧
    (members.get? "exports" = none ∨
      members.get? "alias" ≠ none ∧
        ∃ nested, members.get? "exports" = some nested ∧ IsListOf IsPlainExport nested)

/-- A document of the accepted shape. -/
def IsSpec : Value → Prop := IsListOf IsExport

variable {depths : Depths}

theorem textFaults_eq_nil {error : String → SpecError} {v : Value} :
    textFaults error v = [] ↔ ∃ s, v = .str s ∧ s ≠ "" := by
  unfold textFaults Value.nonEmptyText?
  cases v with
  | str s => by_cases hs : s = "" <;> simp [hs]
  | _ => simp

theorem nameFaults_eq_nil {members : OrderedMap String Value} :
    nameFaults members = [] ↔ HasName members := by
  unfold nameFaults HasName
  rw [textFaults_eq_nil]
  cases members.get? "name" with
  | none => simp
  | some v => simp

theorem aliasFaults_eq_nil {members : OrderedMap String Value} :
    aliasFaults members = [] ↔ AliasFits members := by
  unfold aliasFaults AliasFits
  cases members.get? "alias" with
  | none => simp
  | some v =>
    rw [textFaults_eq_nil]
    simp

theorem elementFaults_eq_nil {below : Value → List SpecError} {v : Value} :
    elementFaults below v = [] ↔
      ∃ members : OrderedMap String Value, v = .obj members ∧ HasName members ∧ AliasFits members ∧
        nestedFaults below members = [] := by
  cases v with
  | obj members => simp [elementFaults, nameFaults_eq_nil, aliasFaults_eq_nil]
  | _ => simp [elementFaults]

theorem nestedFaults_eq_nil {below : Value → List SpecError} {shape : Value → Prop}
    (h : ∀ v, below v = [] ↔ shape v) {members : OrderedMap String Value} :
    nestedFaults below members = [] ↔
      members.get? "exports" = none ∨
        members.get? "alias" ≠ none ∧ ∃ nested, members.get? "exports" = some nested ∧ shape nested := by
  unfold nestedFaults
  cases members.get? "exports" with
  | none => simp
  | some nested => cases members.get? "alias" <;> simp [h]

theorem faults_eq_nil {depth : Nat} (hdepth : depth ≤ 1) {v : Value} :
    faults depth v = [] ↔ IsListOf (fun item => elementFaults (faults (depth + 1)) item = []) v := by
  have hd : ¬ 1 < depth := by omega
  unfold IsListOf
  cases v with
  | arr items =>
    cases items with
    | nil => simp [faults]
    | cons a r => simp [faults, hd]
  | _ => simp [faults]

theorem faults_ne_nil_of_deep {depth : Nat} (hdepth : 1 < depth) (v : Value) :
    faults depth v ≠ [] := by
  cases v with
  | arr items =>
    cases items with
    | nil => simp [faults]
    | cons a r => simp [faults, hdepth]
  | _ => simp [faults]

theorem faults_one_eq_nil {v : Value} : faults 1 v = [] ↔ IsListOf IsPlainExport v := by
  rw [faults_eq_nil (by omega)]
  have h (v : Value) : faults 2 v = [] ↔ False := by simp [faults_ne_nil_of_deep]
  simp only [elementFaults_eq_nil, nestedFaults_eq_nil h, and_false, exists_false, or_false]
  rfl

theorem faults_eq_nil_iff {v : Value} : faults 0 v = [] ↔ IsSpec v := by
  rw [faults_eq_nil (by omega)]
  simp only [elementFaults_eq_nil, nestedFaults_eq_nil fun _ => faults_one_eq_nil]
  rfl

/-! Reading meets the faults in their order -/

theorem requiredText_error_iff (v : Value) (error : String → SpecError) (e : SpecError) :
    requiredText v error = .error e ↔ (textFaults error v).head? = some e := by
  unfold requiredText textFaults
  cases v with
  | str s =>
    by_cases hs : s.isEmpty = true <;>
      simp [Document.text?, Document.shown, Value.text?, Value.nonEmptyText?, hs]
  | _ => simp [Document.text?, Document.shown, Value.text?, Value.nonEmptyText?]

theorem readName_error_iff (members : OrderedMap String Value) (e : SpecError) :
    readName members = .error e ↔ (nameFaults members).head? = some e := by
  unfold readName nameFaults
  cases h : members.get? "name" with
  | none =>
    have hshown : complain .badName (Value.null.shown .spaced) = .badName "null" := rfl
    simp [textFaults, Value.nonEmptyText?, hshown]
  | some v => exact requiredText_error_iff v _ e

theorem readAlias_error_iff (members : OrderedMap String Value) (e : SpecError) :
    readAlias members = .error e ↔ (aliasFaults members).head? = some e := by
  unfold readAlias aliasFaults
  cases h : members.get? "alias" with
  | none => simp
  | some v =>
    rw [← requiredText_error_iff]
    change (some <$> requiredText v SpecError.badAlias) = .error e ↔ _
    cases requiredText v SpecError.badAlias with
    | error e' => exact Iff.of_eq (by simp [Functor.map, Except.map])
    | ok s => simp [Functor.map, Except.map]

section

variable {σ : Type} [Supply σ]

theorem readExport_reports {nested : Node → Value → Reading σ (List Node)}
    {below : Value → List SpecError} {parent : Option Node} {depth : Int}
    (hnested : ∀ (head : Node) (raw : Value), head.name ≠ "" →
      Reports (nested head raw) (below raw) ∧ Yields (nested head raw) (· ≠ []))
    (hfinish : ∀ head : Node, head.aliasName ≠ some "" →
      (head.children ≠ [] → head.aliasName ≠ none) → ∃ n, finish head parent depth = .ok n)
    (raw : Value) : Reports (readExport nested parent depth raw) (elementFaults below raw) := by
  have finished (head : Node) (halias : head.aliasName ≠ some "")
      (hnamed : head.children ≠ [] → head.aliasName ≠ none) :
      Reports (liftM (finish head parent depth) : Reading σ Node) [] := by
    obtain ⟨n, hn⟩ := hfinish head halias hnamed
    rw [hn]
    exact reports_pure n
  unfold readExport
  split
  · rename_i h
    cases raw with
    | obj members => cases h
    | _ => exact reports_throw _ _
  · rename_i members h
    cases raw with
    | obj members' =>
      cases h
      refine (reports_lift (readName_error_iff members)).bind (yields_lift fun _ => readName_ok)
        fun name hname => ?_
      refine (reports_lift (readAlias_error_iff members)).bind (yields_lift fun _ => readAlias_ok)
        fun aliasName halias => ?_
      rw [← List.nil_append (nestedFaults below members)]
      refine reports_drawName.bind (yields_any _) fun id _ => ?_
      unfold nestedFaults
      cases hx : members.get? "exports" with
      | none => exact finished _ halias.1 (by simp)
      | some nested =>
        have hn := hnested ⟨id, name, aliasName, [], none, none⟩ nested hname.2
        refine hn.1.bind hn.2 fun children hne => ?_
        have hname' : nameText members = name := by
          unfold nameText
          change ((members.get? "name").bind Document.text?).getD "" = name
          rw [hname.1]
          rfl
        rw [hname']
        -- Nested exports are read before it is asked whether the element that has them has an alias.
        cases ha : members.get? "alias" with
        | none =>
          obtain rfl : aliasName = none := halias.2.2 ha
          rw [if_pos (by simp [hne])]
          exact reports_throw _ _
        | some v =>
          have hsome : aliasName ≠ none := fun hnone => by simp [halias.2.1 hnone] at ha
          rw [if_neg (by simp [hsome])]
          exact finished _ halias.1 fun _ => hsome
    | _ => cases h

theorem readLevels_succ_reports (levels depth : Nat) (hdepth : depth ≤ 1) {parent : Option Node}
    {d : Int}
    (h : ∀ item : Value, Reports (readExport (σ := σ)
        (fun head raw => readLevels levels (some head) (d + 1) raw) parent d item)
        (elementFaults (faults (depth + 1)) item))
    (raw : Value) :
    Reports (readLevels (levels + 1) parent d raw : Reading σ (List Node))
      (faults depth raw) := by
  have hd : ¬ 1 < depth := by omega
  cases raw with
  | arr items =>
    cases items with
    | nil =>
      rw [faults]
      exact reports_throw _ _
    | cons a r =>
      rw [faults]
      · simp only [hd, if_false]
        exact reports_mapM (a :: r) fun item _ => h item
      · simp
  | _ =>
    unfold readLevels
    rw [faults]
    · exact reports_throw _ _
    all_goals simp

theorem readLevels_zero_reports (parent : Option Node) {d : Int} (hd : d = 2) (raw : Value) :
    Reports (readLevels 0 parent d raw : Reading σ (List Node)) (faults 2 raw) := by
  subst hd
  cases raw with
  | arr items =>
    cases items with
    | nil =>
      rw [faults]
      exact reports_throw _ _
    | cons a r =>
      rw [faults]
      · exact reports_throw _ _
      · simp
  | _ =>
    unfold readLevels
    rw [faults]
    · exact reports_throw _ _
    all_goals simp

theorem readPaths_reports {p : Node} (h : p.name ≠ "") (raw : Value) :
    Reports (readLevels 1 (some p) 1 raw : Reading σ (List Node)) (faults 1 raw) := by
  have element (item : Value) :
      Reports (readExport (σ := σ)
        (fun head raw => readLevels 0 (some head) (1 + 1) raw) (some p) 1 item)
        (elementFaults (faults 2) item) := by
    refine readExport_reports (fun head raw _ => ?_) (fun head _ _ => ⟨_, finish_path head h⟩) item
    refine ⟨readLevels_zero_reports _ rfl raw, fun s nodes s' hr => ?_⟩
    exact (readLevels_zero_yields _ _ _ s nodes s' hr).elim
  exact readLevels_succ_reports 0 1 (by omega) element raw

theorem readExports_reports (raw : Value) :
    Reports (readExports raw : Reading σ (List Node)) (faults 0 raw) := by
  have element (item : Value) :
      Reports (readExport (σ := σ)
        (fun head raw => readLevels 1 (some head) (0 + 1) raw) none 0 item)
        (elementFaults (faults 1) item) := by
    refine readExport_reports (fun head raw hname => ?_) (fun head halias hnamed => ?_) item
    · refine ⟨readPaths_reports hname raw, fun s nodes s' hr => ?_⟩
      exact (readPaths_yields hname raw s nodes s' hr).1
    · rw [← Node.publicName?_eq halias] at hnamed
      exact ⟨_, finish_package hnamed⟩
  exact readLevels_succ_reports 1 0 (by omega) element raw

end

/-! Kinds of faults. -/

/-- A fault that a document can have. Nodes without a usable parent and nodes without a fragment are
none of these. -/
def IsDocumentFault (e : SpecError) : Prop :=
  ∃ kind, e.kind? = some kind ∧ kind ≠ .parentShape ∧ kind ≠ .unrepresentable

def Showable [Depths] (v : Value) : Prop :=
  v.depth ≤ Depths.showing ∧ v.fitsDigitLimit = true

theorem Showable.item {items : List Value} (h : Showable (.arr items)) {v : Value}
    (hv : v ∈ items) : Showable v := by
  refine ⟨?_, ?_⟩
  · have hdepth := h.1
    rw [Value.depth] at hdepth
    have hle := Value.depthOfItems_le_iff.1 (Nat.le_refl _) v hv
    omega
  · have hfits := h.2
    rw [Value.fitsDigitLimit, Value.allFit_eq, List.all_map, List.all_eq_true] at hfits
    exact hfits v hv

theorem Showable.member {members : OrderedMap String Value} (h : Showable (.obj members))
    {k : String} {v : Value} (hv : members.get? k = some v) : Showable v := by
  have hmem : (k, v) ∈ members := OrderedMap.mem_of_get? hv
  refine ⟨?_, ?_⟩
  · have hdepth := h.1
    rw [Value.depth] at hdepth
    have hle := Value.depthOfMembers_le_iff.1 (Nat.le_refl _) _ hmem
    dsimp only at hle
    omega
  · have hfits := h.2
    rw [Value.fitsDigitLimit, Value.allMembersFit_eq, List.all_map, List.all_eq_true] at hfits
    exact hfits _ hmem

theorem complain_of_showable {v : Value} (h : Showable v) (error : String → SpecError) :
    complain error (v.shown .spaced) = error (v.print .spaced) := by
  rw [Value.shown_eq_ok h.1 h.2]
  rfl

theorem isDocumentFault_of_mem_textFaults {error : String → SpecError}
    (h : ∀ shown, IsDocumentFault (error shown)) {v : Value} (hv : Showable v) {e : SpecError}
    (he : e ∈ textFaults error v) : IsDocumentFault e := by
  unfold textFaults at he
  split at he
  · cases he
  · rw [complain_of_showable hv] at he
    obtain rfl := List.mem_singleton.1 he
    exact h _

theorem isDocumentFault_of_mem_elementFaults {below : Value → List SpecError} {e : SpecError}
    (h : ∀ v, Showable v → e ∈ below v → IsDocumentFault e) {v : Value} (hv : Showable v)
    (he : e ∈ elementFaults below v) : IsDocumentFault e := by
  cases v with
  | obj members =>
    rcases List.mem_append.1 he with hn | he
    · refine isDocumentFault_of_mem_textFaults (fun shown => ⟨.shape, rfl, nofun, nofun⟩) ?_ hn
      cases hname : OrderedMap.get? members "name" with
      | none => exact ⟨Nat.zero_le _, rfl⟩
      | some name => exact hv.member hname
    rcases List.mem_append.1 he with ha | hx
    · unfold aliasFaults at ha
      split at ha
      · cases ha
      · rename_i value hvalue
        exact isDocumentFault_of_mem_textFaults (fun shown => ⟨.aliasName, rfl, nofun, nofun⟩)
          (hv.member hvalue) ha
    · unfold nestedFaults at hx
      split at hx
      · cases hx
      · rename_i nested hnested
        rcases List.mem_append.1 hx with hb | hr
        · exact h nested (hv.member hnested) hb
        · split at hr
          · obtain rfl := List.mem_singleton.1 hr
            exact ⟨.aliasRequired, rfl, nofun, nofun⟩
          · cases hr
  | _ =>
    rw [elementFaults, complain_of_showable hv] at he
    · obtain rfl := List.mem_singleton.1 he
      exact ⟨.shape, rfl, nofun, nofun⟩
    · exact nofun

theorem isDocumentFault_of_mem_faults {depth : Nat} {v : Value} (hv : Showable v) {e : SpecError}
    (he : e ∈ faults depth v) : IsDocumentFault e := by
  fun_induction faults depth v with
  | case1 =>
    obtain rfl := List.mem_singleton.1 he
    exact ⟨.shape, rfl, nofun, nofun⟩
  | case2 depth items _ ih =>
    obtain ⟨item, hitem, hfault⟩ := List.mem_flatMap.1 he
    split at hfault
    · obtain rfl := List.mem_singleton.1 hfault
      exact ⟨.depth, rfl, nofun, nofun⟩
    · rename_i hdepth
      exact isDocumentFault_of_mem_elementFaults (ih hdepth) (hv.item hitem) hfault
  | case3 =>
    rw [complain_of_showable hv] at he
    obtain rfl := List.mem_singleton.1 he
    exact ⟨.shape, rfl, nofun, nofun⟩

section

variable {σ : Type} [Supply σ] {raw : Value} {supply : σ}

theorem compile_eq_error_iff (unending : Unending supply) {e : SpecError} :
    (compile raw supply).1 = .error e ↔ (faults 0 raw).head? = some e :=
  (readExports_reports raw supply unending).2 e

/-- Reading a document succeeds exactly on documents of the accepted shape, however deep its values
are. -/
theorem compile_succeeds_iff (unending : Unending supply) :
    (∃ nodes, (compile raw supply).1 = .ok nodes) ↔ IsSpec raw := by
  rw [← faults_eq_nil_iff]
  constructor
  · rintro ⟨nodes, hn⟩
    cases hf : faults 0 raw with
    | nil => rfl
    | cons e r =>
      rw [(compile_eq_error_iff unending).2 (by rw [hf]; rfl)] at hn
      cases hn
  · intro hf
    cases hc : (compile raw supply).1 with
    | ok nodes => exact ⟨nodes, rfl⟩
    | error e =>
      have hfirst := (compile_eq_error_iff unending).1 hc
      rw [hf] at hfirst
      cases hfirst

/-- Of a document that can be shown, the first fault is reported as one of the document. No node of
the tree is ever without a parent or a fragment that it needs. -/
theorem parse_eq_of_showable (hraw : Showable raw) (unending : Unending supply) :
    (∀ e, (compile raw supply).1 = .error e → IsDocumentFault e) ∧
    parse raw supply =
      match compile raw supply with
      | (.ok nodes, rest) => (.ok (.parsed nodes), rest)
      | (.error e, rest) => (.ok (.rejected e), rest) := by
  have hkind : ∀ e, (compile raw supply).1 = .error e → IsDocumentFault e := fun e he =>
    isDocumentFault_of_mem_faults hraw (List.mem_of_head? ((compile_eq_error_iff unending).1 he))
  refine ⟨hkind, ?_⟩
  unfold parse
  rcases hc : compile raw supply with ⟨e | nodes, rest⟩
  · obtain ⟨kind, hk, _⟩ := hkind e (by rw [hc])
    simp [hk]
  · rfl

/-- A row that stands too deep in itself is no element, and cannot be shown as one that is none: the
error about it is not one of the document. -/
theorem parse_of_deep {items : List Value} (hfits : (Value.arr items).fitsDigitLimit = true)
    (hdeep : Depths.showing < (Value.arr items).depth) (unending : Unending supply) :
    (parse (Value.arr [.arr items]) supply).1 = .error (.unshown .tooDeep) := by
  have hfirst : (faults 0 (.arr [.arr items])).head? = some (.unshown .tooDeep) := by
    simp [faults, elementFaults, Value.shown_of_deep hdeep hfits, complain]
  have herror := (compile_eq_error_iff unending).2 hfirst
  unfold parse
  rcases hc : compile (Value.arr [.arr items]) supply with ⟨e | nodes, rest⟩
  · rw [hc] at herror
    cases herror
    rfl
  · rw [hc] at herror
    cases herror

end

end ExportBundle.Export
