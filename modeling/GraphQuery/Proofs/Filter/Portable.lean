import GraphQuery.Proofs.Filter.Export
import GraphQuery.Proofs.Value.Texts

/-!
# Portable configurations — what a text keeps of tuples and sets

A text has no tuples and no sets: the copy of a configuration that is written has lists in their places
(`Value.portable`).  The copy of a configuration that is made of JSON values, tuples and sets is a JSON value
(`Value.IsData.isJson_portable`), so sets with such configurations are read back with the copies.

A copy selects the same where one kind of collection is as good as another (`Filter.CarriesSelection`):

- a field that holds a text, a number or nothing cannot be told apart from a tuple or a list
  (`Value.IsScalar.alike`), but `between` takes no set as its pair, and texts of operands show the kind;
- a property may itself be a tuple or a set, so what it is compared with as a whole must be a JSON value;
- nor may it be a collection with NaN in it, for there it matters whether the property holds the same NaN.

Without this a property that is a tuple is selected before an export, and not after it
(`FilterSets.selection_lostByExport`).
-/

namespace GraphQuery

/-! ## Copies of data -/

/-- The named values with their copies in their places. -/
def Fields.portable (fields : Fields) : Fields := fields.map fun entry => (entry.1, entry.2.portable)

namespace Fields

theorem names_portable (fields : Fields) : names fields.portable = names fields := names_map _ fields

theorem get?_portable (fields : Fields) (name : String) :
    get? fields.portable name = (get? fields name).map Value.portable := get?_map _ fields name

/-- What stands under a name has its copy there, if what stands for a missing value is its own. -/
theorem getD_get?_portable (fields : Fields) (name : String) {default : Value}
    (hdefault : default.portable = default) :
    (get? fields.portable name).getD default = ((get? fields name).getD default).portable := by
  rw [get?_portable]
  cases get? fields name with
  | none =>
      exact hdefault.symm
  | some v =>
      rfl

theorem getD_portable (fields : Fields) (name : String) :
    getD fields.portable name = (getD fields name).portable :=
  getD_get?_portable fields name (by rw [Value.portable])

end Fields

namespace Value

/-- Whether a value is made of JSON values, tuples and sets. -/
inductive IsData : Value → Prop where
  | null : IsData .null
  | bool (b : Bool) : IsData (.bool b)
  | int (n : Int) : IsData (.int n)
  | float {x : Binary64} (canonical : x.IsCanonical) : IsData (.float x)
  | text (s : String) : IsData (.text s)
  | list {items : List Value} (items_isData : ∀ x ∈ items, IsData x) : IsData (.list items)
  | tuple {items : List Value} (items_isData : ∀ x ∈ items, IsData x) : IsData (.tuple items)
  | set {frozen : Bool} {items : List Value} (items_isData : ∀ x ∈ items, IsData x) : IsData (.set frozen items)
  | mapping {entries : Fields} (distinct : (Fields.names entries).Nodup)
      (entries_isData : ∀ entry ∈ entries, IsData entry.2) : IsData (.mapping entries)

variable {v : Value}

theorem IsData.isTest_eq_false (h : v.IsData) : v.isTest = false := by
  cases h <;> rfl

theorem portableItems_eq_map (items : List Value) : portableItems items = items.map portable := by
  induction items with
  | nil =>
      rfl
  | cons x xs ih =>
      rw [portableItems, ih, List.map_cons]

/-- Data holds no tests, so nothing is left out of a copy. -/
theorem portable_mapping {entries : Fields} (h : ∀ entry ∈ entries, entry.2.IsData) :
    (Value.mapping entries).portable = .mapping entries.portable := by
  have hentries : portableEntries entries = entries.portable := by
    induction entries with
    | nil =>
        rfl
    | cons entry rest ih =>
        obtain ⟨hentry, hrest⟩ := List.forall_mem_cons.1 h
        rw [portableEntries, hentry.isTest_eq_false, if_neg Bool.false_ne_true, ih hrest]
        rfl
  rw [portable, hentries]

/-- The copy of data is a JSON value. -/
theorem IsData.isJson_portable (h : v.IsData) : v.portable.IsJson := by
  induction h with
  | null => exact .null
  | bool b => exact .bool b
  | int n => exact .int n
  | float canonical => exact .float canonical
  | text s => exact .text s
  | list _ ih | tuple _ ih | set _ ih =>
      rw [portable, portableItems_eq_map]
      exact .list (List.forall_mem_map.2 ih)
  | mapping distinct hentries ih =>
      rw [portable_mapping hentries]
      refine .mapping ?_ (List.forall_mem_map.2 ih)
      rw [Fields.names_portable]
      exact distinct

/-! ## What a copy shares with its original -/

theorem isTruthy_portable (h : v.IsData) : v.portable.isTruthy = v.isTruthy := by
  cases h with
  | list | tuple | set =>
      simp [portable, portableItems_eq_map, isTruthy]
  | mapping _ hentries =>
      simp [portable_mapping hentries, isTruthy, Fields.portable]
  | _ => rfl

/-- A copy has a text where its original has one. -/
theorem hasLongInteger_portable (h : v.IsData) : v.portable.hasLongInteger = v.hasLongInteger := by
  rw [Bool.eq_iff_iff, ← not_iff_not, Bool.not_eq_true, Bool.not_eq_true]
  induction h with
  | list _ ih | tuple _ ih | set _ ih =>
      rw [portable, portableItems_eq_map]
      refine hasText_list.trans (Iff.trans ?_ anyLongInteger_eq_false_iff.symm)
      rw [List.forall_mem_map]
      exact forall₂_congr ih
  | mapping _ hentries ih =>
      rw [portable_mapping hentries]
      refine hasText_mapping.trans (Iff.trans ?_ hasText_mapping.symm)
      rw [Fields.portable, List.forall_mem_map]
      exact forall₂_congr ih
  | _ => exact Iff.rfl

/-- The keys of data are texts. -/
theorem IsData.hasLongKey_eq_false (h : v.IsData) : v.hasLongKey = false := by
  induction h with
  | null | bool | int | float | text =>
      rfl
  | list _ ih | tuple _ ih | set _ ih =>
      rw [hasLongKey, itemsHaveLongKey_of_forall ih]
  | mapping _ _ ih =>
      rw [hasLongKey, entriesHaveLongKey_of_forall ih]

theorem isBool_portable (v : Value) : v.portable.isBool = v.isBool := by
  cases v <;> simp [portable, isBool]

theorem collection?_portable (v : Value) :
    v.portable.collection? = v.collection?.map (List.map portable) := by
  cases v <;> simp [portable, collection?, portableItems_eq_map]

theorem mapping?_portable (h : v.IsData) : v.portable.mapping? = v.mapping?.map Fields.portable := by
  cases h with
  | mapping _ hentries =>
      rw [portable_mapping hentries]
      rfl
  | _ => rfl

theorem resolve_portable (v : Value) : Operator.resolve v.portable = Operator.resolve v := by
  cases v <;> simp [portable, Operator.resolve]

theorem IsData.getD {entries : Fields} (h : ∀ entry ∈ entries, entry.2.IsData) (name : String) :
    (Fields.getD entries name).IsData :=
  Fields.getD_of_forall .null h name

/-! ## Comparing -/

/-- Whether an item compares with a value as it does with its copy. -/
structure Alike (item v : Value) : Prop where
  same : strictSame item v.portable = strictSame item v
  below : ∀ strict, below? strict item v.portable = below? strict item v
  above : ∀ strict, below? strict v.portable item = below? strict v item

theorem IsJson.alike (h : v.IsJson) (item : Value) : item.Alike v := by
  constructor <;> simp [h.portable_eq]

mutual

/-- Whether a value is NaN or has NaN somewhere in it. -/
def holdsNaN : Value → Bool
  | float .nan => true
  | list items | tuple items | set _ items => itemsHoldNaN items
  | mapping entries => entriesHoldNaN entries
  | _ => false

def itemsHoldNaN : List Value → Bool
  | [] => false
  | x :: xs => holdsNaN x || itemsHoldNaN xs

def entriesHoldNaN : List (String × Value) → Bool
  | [] => false
  | (_, x) :: xs => holdsNaN x || entriesHoldNaN xs

end

/-- Whether a value can stand for its copy wherever values are compared.  NaN equals no number, itself included.  As a
part of collections it does equal itself as long as both hold the very same object, which values do not tell; and a
copy that has been written and read back holds another one. -/
structure ComparesAsCopy (v : Value) : Prop where
  isJson : v.IsJson
  alone : v.holdsNaN = true → v = .float .nan

/-- A text, a number, a truth value or nothing. -/
inductive IsScalar : Value → Prop where
  | null : IsScalar .null
  | bool (b : Bool) : IsScalar (.bool b)
  | int (n : Int) : IsScalar (.int n)
  | float (x : Binary64) : IsScalar (.float x)
  | text (s : String) : IsScalar (.text s)

/-- A scalar is equal to no collection and cannot be ordered with one, whatever its kind. -/
theorem IsScalar.alike {item : Value} (hitem : item.IsScalar) (hv : v.IsData) : item.Alike v := by
  -- A scalar is its own copy; a collection or a mapping is told apart from the item before it is looked into.
  have hsame : Value.same item v.portable = Value.same item v := by
    cases hv with
    | list | tuple | set =>
        cases hitem <;> simp [portable, same, number?, isNull]
    | mapping _ hentries =>
        rw [portable_mapping hentries]
        cases hitem <;> simp [same, number?, isNull]
    | _ => rfl
  constructor
  · rw [strictSame, strictSame, isBool_portable, hsame]
  · intro strict
    cases hv with
    | list | tuple | set =>
        cases hitem <;> simp [portable, below?, number?]
    | mapping _ hentries =>
        rw [portable_mapping hentries]
        cases hitem <;> simp [below?, number?]
    | _ => rfl
  · intro strict
    cases hv with
    | list | tuple | set =>
        cases hitem <;> simp [portable, below?]
    | mapping _ hentries =>
        rw [portable_mapping hentries]
        cases hitem <;> simp [below?]
    | _ => rfl

theorem IsData.of_mem {items : List Value} (h : v.IsData) (hitems : v.collection? = some items) :
    ∀ x ∈ items, x.IsData := by
  cases h with
  | list hall | tuple hall | set hall =>
      cases hitems
      exact hall
  | _ => cases hitems

theorem strictMember_portable {item : Value} {items : List Value} (h : ∀ x ∈ items, item.Alike x) :
    strictMember (items.map portable) item = strictMember items item := by
  rw [strictMember, strictMember, List.any_map, Bool.eq_iff_iff, List.any_eq_true, List.any_eq_true]
  refine exists_congr fun x => and_congr_right fun hx => ?_
  rw [Function.comp, (h x hx).same]

end Value

namespace Operator

open Value

variable {op : Operator} {item v : Value}

/-- Whether an operator compares two values as wholes. -/
def comparesWholes (op : Operator) : Bool := [eq, ne, gt, gte, lt, lte].contains op

/-- Whether an operator compares the members of its operand. -/
def comparesMembers (op : Operator) : Bool := [oneOf, noneOf, between].contains op

/-- Whether an operator looks at the text of its operand. -/
def comparesTexts (op : Operator) : Bool := [contains, startsWith, endsWith, regex].contains op

/-- Whether an operand of an operator compares with scalars as its copy does. -/
structure Carries (op : Operator) (v : Value) : Prop where
  /-- A set is no pair, but the list of its members may be one. -/
  pair : op = between → ∀ frozen low high, v ≠ .set frozen [low, high]
  texts : op.comparesTexts = true → v.IsJson

/-- Whether an operand of an operator compares with all values as its copy does. -/
structure CarriesToAll (op : Operator) (v : Value) : Prop extends Carries op v where
  wholes : op.comparesWholes = true → v.ComparesAsCopy
  members : op.comparesMembers = true → ∀ items, v.collection? = some items → ∀ x ∈ items, x.ComparesAsCopy

/-- A pair is a pair in a copy, and only a set becomes one. -/
theorem closed_isBetween_portable (hv : v.IsData) (hpair : ∀ frozen low high, v ≠ .set frozen [low, high])
    (hmembers : ∀ items, v.collection? = some items → ∀ x ∈ items, item.Alike x) :
    (isBetween item v.portable).closed = (isBetween item v).closed := by
  -- What is no pair is refused with a message that shows it, before and after.
  have hrefused : Outcome.closed (.error (.showing v.portable (.criteria (.needsPair v.portable)))) =
      Outcome.closed (.error (.showing v (.criteria (.needsPair v)))) := by
    rw [closed_showing, closed_showing, hasLongInteger_portable hv]
  cases hv with
  | @list items _ | @tuple items _ =>
      have halike := hmembers items rfl
      rw [portable, portableItems_eq_map] at hrefused ⊢
      -- Only two members make a pair.
      rcases items with _ | ⟨low, _ | ⟨high, _ | _⟩⟩
      · exact hrefused
      · exact hrefused
      · have hlow := halike low (by simp)
        have hhigh := halike high (by simp)
        simp only [List.map_cons, List.map_nil, isBetween, hlow.above, hhigh.below]
      · exact hrefused
  | @set frozen items _ =>
      rw [portable, portableItems_eq_map] at hrefused ⊢
      rcases items with _ | ⟨low, _ | ⟨high, _ | _⟩⟩
      · exact hrefused
      · exact hrefused
      · exact absurd rfl (hpair frozen low high)
      · exact hrefused
  | mapping _ hentries =>
      rw [portable_mapping hentries] at hrefused ⊢
      exact hrefused
  | _ => exact hrefused

/-- An operator that is applied to a copy gives what it gives for the original. -/
theorem applies_portable_of_alike (hv : v.IsData) (hcarries : op.Carries v)
    (hwhole : op.comparesWholes = true → item.Alike v)
    (hmembers : op.comparesMembers = true → ∀ items, v.collection? = some items → ∀ x ∈ items, item.Alike x) :
    op.applies item v.portable = op.applies item v := by
  cases op with
  | eq | ne =>
      rw [applies, applies, evaluate, evaluate, (hwhole rfl).same]
  | gt | gte =>
      rw [applies, applies, evaluate, evaluate, (hwhole rfl).above]
  | lt | lte =>
      rw [applies, applies, evaluate, evaluate, (hwhole rfl).below]
  | oneOf | noneOf =>
      -- Membership does not depend on the kind of the collection; what is none is refused either way.
      cases hitems : v.collection? with
      | none =>
          simp only [applies, evaluate, isMember, collection?_portable, hitems]
          rfl
      | some items =>
          simp only [applies, evaluate, isMember, collection?_portable, hitems, Option.map_some,
            strictMember_portable (hmembers rfl items hitems)]
  | between =>
      exact closed_isBetween_portable hv (hcarries.pair rfl) (hmembers rfl)
  | contains | startsWith | endsWith | regex =>
      rw [(hcarries.texts rfl).portable_eq]

theorem Carries.applies_portable (h : op.Carries v) (hitem : item.IsScalar) (hv : v.IsData) :
    op.applies item v.portable = op.applies item v :=
  applies_portable_of_alike hv h (fun _ => hitem.alike hv)
    fun _ _ hitems x hx => hitem.alike (hv.of_mem hitems x hx)

theorem CarriesToAll.applies_portable (h : op.CarriesToAll v) (item : Value) (hv : v.IsData) :
    op.applies item v.portable = op.applies item v :=
  applies_portable_of_alike hv h.toCarries (fun hop => (h.wholes hop).isJson.alike item)
    fun hop items hitems x hx => (h.members hop items hitems x hx).isJson.alike item

end Operator

/-! ## Criteria -/

namespace Value

variable {item criterion : Value}

/-- Whether a criterion has the same answer for every scalar as its copy has. -/
def Carries (criterion : Value) : Prop :=
  ∀ entries, criterion = .mapping entries →
    (Operator.resolve (Fields.getD entries "operator")).Carries (Fields.getD entries "value")

/-- Whether a criterion has the same answer for every value as its copy has. -/
def CarriesToAll (criterion : Value) : Prop :=
  match criterion.operatorFilter? with
  | some (op, value) => op.CarriesToAll value
  | none => criterion.ComparesAsCopy

theorem operatorFilter?_portable (h : criterion.IsData) :
    criterion.portable.operatorFilter? =
      criterion.operatorFilter?.map fun filter => (filter.1, filter.2.portable) := by
  cases h with
  | @mapping entries _ hentries =>
      have htruthy := isTruthy_portable (IsData.getD hentries "operator")
      rw [portable_mapping hentries, operatorFilter?, operatorFilter?]
      simp only [mapping?, Fields.getD_portable, htruthy, resolve_portable]
      split_ifs <;> rfl
  | _ => rfl

/-- A criterion that names an operator is a mapping, of which this and the operand are read. -/
theorem exists_of_operatorFilter? (h : criterion.IsData) {op : Operator} {v : Value}
    (hfilter : criterion.operatorFilter? = some (op, v)) :
    ∃ entries, criterion = .mapping entries ∧ op = Operator.resolve (Fields.getD entries "operator") ∧
      v = Fields.getD entries "value" ∧ v.IsData := by
  cases h with
  | @mapping entries _ hentries =>
      rw [operatorFilter?] at hfilter
      simp only [mapping?] at hfilter
      split_ifs at hfilter
      cases hfilter
      exact ⟨entries, rfl, rfl, rfl, IsData.getD hentries "value"⟩
  | _ => cases hfilter

theorem Carries.meetsLiteral_portable (hcarries : criterion.Carries) (hitem : item.IsScalar)
    (h : criterion.IsData) : item.meetsLiteral criterion.portable = item.meetsLiteral criterion := by
  rw [meetsLiteral, meetsLiteral, operatorFilter?_portable h]
  rcases hfilter : criterion.operatorFilter? with _ | ⟨op, v⟩
  · simp only [Option.map_none, (hitem.alike h).same]
  · obtain ⟨entries, hmapping, rfl, rfl, hv⟩ := exists_of_operatorFilter? h hfilter
    exact (hcarries entries hmapping).applies_portable hitem hv

theorem CarriesToAll.meetsLiteral_portable (hcarries : criterion.CarriesToAll) (item : Value)
    (h : criterion.IsData) : item.meetsLiteral criterion.portable = item.meetsLiteral criterion := by
  rw [CarriesToAll] at hcarries
  rw [meetsLiteral, meetsLiteral, operatorFilter?_portable h]
  rcases hfilter : criterion.operatorFilter? with _ | ⟨op, v⟩
  · rw [hfilter] at hcarries
    simp only [Option.map_none, hcarries.isJson.portable_eq]
  · rw [hfilter] at hcarries
    obtain ⟨-, -, -, -, hv⟩ := exists_of_operatorFilter? h hfilter
    exact hcarries.applies_portable item hv

/-- Any collection lists the scalars that meet it. -/
theorem Carries.meets_portable (hcarries : criterion.Carries) (hitem : item.IsScalar) (h : criterion.IsData) :
    item.meets criterion.portable = item.meets criterion := by
  rw [meets, meets, collection?_portable]
  cases hitems : criterion.collection? with
  | none =>
      exact hcarries.meetsLiteral_portable hitem h
  | some items =>
      have halike : ∀ x ∈ items, item.Alike x := fun x hx => hitem.alike (h.of_mem hitems x hx)
      simp only [Option.map_some, strictMember_portable halike]

end Value

namespace Fields

theorem meetAll_portable (properties : Fields) {entries : Fields} (h : ∀ entry ∈ entries, entry.2.IsData)
    (hcarries : ∀ entry ∈ entries, entry.2.CarriesToAll) :
    meetAll properties (portable entries) = meetAll properties entries := by
  induction entries with
  | nil =>
      rfl
  | cons entry rest ih =>
      obtain ⟨key, expected⟩ := entry
      obtain ⟨hentry, hrest⟩ := List.forall_mem_cons.1 h
      obtain ⟨hfirst, hothers⟩ := List.forall_mem_cons.1 hcarries
      show meetAll properties ((key, expected.portable) :: portable rest) = _
      rw [meetAll, meetAll]
      simp only [hfirst.meetsLiteral_portable _ hentry, ih hrest hothers]

/-- Properties meet a copy of criteria as they meet these, if each of the criteria carries over. -/
theorem meet_portable (properties : Fields) {criteria : Value} (h : criteria.IsData)
    (hcarries : ∀ entries, criteria = .mapping entries → ∀ entry ∈ entries, entry.2.CarriesToAll) :
    meet properties criteria.portable = meet properties criteria := by
  cases h with
  | @mapping entries _ hentries =>
      rw [Value.portable_mapping hentries]
      exact meetAll_portable properties hentries (hcarries entries rfl)
  | _ => rfl

end Fields

namespace Filter

open Value

variable {criterion : Value}

/-- Whether the operand of a text criterion shows the same text as its copy. -/
def CarriesAsText (criterion : Value) : Prop :=
  ∀ entries, criterion = .mapping entries → (Fields.getD entries "value").IsJson

theorem meetsTextEntries_portable (text : String) {entries : Fields} (h : (Fields.getD entries "value").IsJson)
    (hentries : ∀ entry ∈ entries, entry.2.IsData) :
    meetsTextEntries text entries.portable = meetsTextEntries text entries := by
  have hcase := isTruthy_portable (IsData.getD hentries "case_sensitive")
  unfold meetsTextEntries
  rw [Fields.getD_portable, Fields.getD_portable, h.portable_eq, hcase,
    Fields.getD_get?_portable entries "operator" (IsJson.text "contains").portable_eq]
  -- Only a text names an operator, and a text is its own copy.
  generalize (Fields.get? entries "operator").getD (.text "contains") = operator
  cases operator with
  | text name =>
      simp only [portable]
  | _ =>
      simp [portable, textTest]

theorem meetsText_portable (text : Option String) (h : criterion.IsData) (hcarries : CarriesAsText criterion) :
    meetsText text criterion.portable = meetsText text criterion := by
  rw [meetsText, meetsText, isTruthy_portable h]
  cases h with
  | @mapping entries _ hentries =>
      rw [portable_mapping hentries]
      simp only [meetsTextEntries_portable _ (hcarries entries rfl) hentries]
  | _ => rfl

theorem meetsConnections_portable (degree : Degree) (h : criterion.IsData) (hcarries : criterion.Carries) :
    meetsConnections degree criterion.portable = meetsConnections degree criterion := by
  cases h with
  | @mapping entries _ hentries =>
      rw [portable_mapping hentries, meetsConnections, meetsConnections, Fields.getD_portable,
        Fields.getD_portable, resolve_portable]
      exact (hcarries entries rfl).applies_portable (.int _) (IsData.getD hentries "value")
  | _ => rfl

theorem closed_meetsDegree_portable (degree : Degree) (h : criterion.IsData) (hcarries : criterion.Carries) :
    (meetsDegree degree criterion.portable).closed = (meetsDegree degree criterion).closed := by
  -- What is no mapping is refused with a message that shows it, before and after.
  have hrefused : Outcome.closed
        (.error (.showing criterion.portable (.criteria (.degreeNeedsMapping criterion.portable)))) =
      Outcome.closed (.error (.showing criterion (.criteria (.degreeNeedsMapping criterion)))) := by
    rw [closed_showing, closed_showing, hasLongInteger_portable h]
  cases h with
  | @mapping entries _ hentries =>
      have hkind : ∀ kind : Value, degree.ofKind kind.portable = degree.ofKind kind := by
        intro kind
        cases kind <;> simp [portable, Degree.ofKind]
      -- An operator that is missing and one that is null both stand for equality.
      have hresolve : Operator.resolve ((Fields.get? entries "operator").getD (.text "eq")) =
          Operator.resolve (Fields.getD entries "operator") := by
        rw [Fields.getD]
        cases Fields.get? entries "operator" <;> rfl
      rw [portable_mapping hentries, meetsDegree, meetsDegree]
      simp only [Fields.getD_portable, hkind, resolve_portable, hresolve,
        Fields.getD_get?_portable entries _ (IsJson.text _).portable_eq]
      rw [(hcarries entries rfl).applies_portable (.int _) (IsData.getD hentries "value")]
  | list | tuple | set =>
      rw [portable] at hrefused ⊢
      exact hrefused
  | _ => exact hrefused

theorem isScalar_textOrNull (text : Option String) : (textOrNull text).IsScalar := by
  cases text with
  | none => exact .null
  | some s => exact .text s

theorem isScalar_toValue (id : EntityId) : id.toValue.IsScalar := by
  cases id with
  | int n => exact .int n
  | text s => exact .text s

/-! ## Fields -/

/-- Whether a criterion on a field that nodes and edges share has the same answers as its copy. -/
def CarriesShared (name : String) (criterion : Value) : Prop :=
  match name with
  | "type" | "id" => criterion.Carries
  | "label" | "text" => CarriesAsText criterion
  | "properties" => ∀ entries, criterion = .mapping entries → ∀ entry ∈ entries, entry.2.CarriesToAll
  | _ => True

def CarriesForNodes (name : String) (criterion : Value) : Prop :=
  match name with
  | "connections" | "degree" => criterion.Carries
  | _ => CarriesShared name criterion

def CarriesForEdges (name : String) (criterion : Value) : Prop :=
  match name with
  | "source" | "target" => criterion.Carries
  | _ => CarriesShared name criterion

/-- A custom criterion that is data is no test, and neither is its copy. -/
theorem meetsCustom_portable (x : Entity) (h : criterion.IsData) :
    meetsCustom x criterion.portable = meetsCustom x criterion := by
  cases h with
  | list | tuple | set =>
      simp [portable, meetsCustom]
  | mapping _ hentries =>
      rw [portable_mapping hentries]
      rfl
  | _ => rfl

theorem sharedField?_portable (x : Entity) {name : String} (h : criterion.IsData)
    (hcarries : CarriesShared name criterion) :
    sharedField? x name criterion.portable = sharedField? x name criterion := by
  -- One case for each field that nodes and edges share.
  unfold sharedField?
  split
  · exact congrArg some (Carries.meets_portable hcarries (isScalar_textOrNull x.type) h)
  · exact congrArg some (meetsText_portable x.label h hcarries)
  · exact congrArg some (bind_congr fun text => meetsText_portable _ h hcarries)
  · exact congrArg some (Carries.meets_portable hcarries (isScalar_toValue x.id) h)
  · exact congrArg some (Fields.meet_portable x.properties h hcarries)
  · exact congrArg some (meetsCustom_portable x h)
  · rfl

theorem closed_nodeField_portable (degree : Degree) (n : Node) {name : String} (h : criterion.IsData)
    (hcarries : CarriesForNodes name criterion) :
    (nodeField degree n name criterion.portable).closed = (nodeField degree n name criterion).closed := by
  unfold CarriesForNodes at hcarries
  split at hcarries
  · exact congrArg Outcome.closed (meetsConnections_portable degree h hcarries)
  · exact closed_meetsDegree_portable degree h hcarries
  · have hshared := sharedField?_portable (.node n) h hcarries
    unfold nodeField
    rw [hshared]
    split
    · rfl
    · split
      · contradiction
      · contradiction
      · rfl

theorem edgeField_portable (e : Edge) {name : String} (h : criterion.IsData)
    (hcarries : CarriesForEdges name criterion) :
    edgeField e name criterion.portable = edgeField e name criterion := by
  unfold CarriesForEdges at hcarries
  split at hcarries
  · exact Carries.meets_portable hcarries (isScalar_toValue e.source) h
  · exact Carries.meets_portable hcarries (isScalar_toValue e.target) h
  · have hshared := sharedField?_portable (.edge e) h hcarries
    unfold edgeField
    rw [hshared]
    split
    · rfl
    · split
      · contradiction
      · contradiction
      · rfl

/-! ## Configurations -/

variable {α : Type}

theorem meetsEach_portable {field : String → Value → Outcome Bool} {entries : Fields}
    (h : ∀ entry ∈ entries, (field entry.1 entry.2.portable).closed = (field entry.1 entry.2).closed) :
    meetsEach field entries.portable = meetsEach field entries := by
  induction entries with
  | nil =>
      rfl
  | cons entry rest ih =>
      obtain ⟨hentry, hrest⟩ := List.forall_mem_cons.1 h
      show meetsEach field ((entry.1, entry.2.portable) :: Fields.portable rest) = _
      rw [meetsEach, meetsEach, hentry, ih hrest]

/-- Criteria and their copy keep the same items, if each criterion has the same answers as its copy. -/
theorem keep_portable {field : α → String → Value → Outcome Bool} {criteria : Value} (h : criteria.IsData)
    (hfield : ∀ entries, criteria = .mapping entries → ∀ entry ∈ entries, entry.2.IsData → ∀ x,
      (field x entry.1 entry.2.portable).closed = (field x entry.1 entry.2).closed) (xs : List α) :
    keep (criteriaCheck field criteria.portable) xs = keep (criteriaCheck field criteria) xs := by
  have hcheck : criteriaCheck field criteria.portable = criteriaCheck field criteria := by
    funext x
    rw [criteriaCheck, criteriaCheck, mapping?_portable h]
    cases h with
    | mapping _ hentries =>
        exact meetsEach_portable fun entry hentry => hfield _ rfl entry hentry (hentries entry hentry) x
    | _ => rfl
  rw [hcheck]

/-- Whether a configuration selects the same as its copy, because each of its criteria has the same answers. -/
structure CarriesSelection (config : Value) : Prop where
  nodes : ∀ fields criteria, config = .mapping fields → Fields.getD fields "nodes" = .mapping criteria →
    ∀ entry ∈ criteria, CarriesForNodes entry.1 entry.2
  edges : ∀ fields criteria, config = .mapping fields → Fields.getD fields "edges" = .mapping criteria →
    ∀ entry ∈ criteria, CarriesForEdges entry.1 entry.2

theorem cascades_portable (fields : Fields) : cascades fields.portable = cascades fields := by
  rw [cascades, cascades, Fields.get?_portable]
  cases Fields.get? fields "cascade_edges" with
  | none =>
      rfl
  | some v =>
      cases v <;> simp [portable]

theorem apply_portable {config : Value} (h : config.IsData) (hcarries : CarriesSelection config)
    (graph part : Snapshot) : apply graph config.portable part = apply graph config part := by
  rw [apply, apply, isTruthy_portable h, mapping?_portable h]
  cases h with
  | @mapping fields _ hfields =>
      have hnodes := IsData.getD hfields "nodes"
      have hedges := IsData.getD hfields "edges"
      have hkeepNodes : ∀ degrees nodes,
          keepNodes degrees (Fields.getD fields "nodes").portable nodes =
            keepNodes degrees (Fields.getD fields "nodes") nodes :=
        fun degrees => keep_portable hnodes fun criteria hcriteria entry hentry hdata n =>
          closed_nodeField_portable _ n hdata (hcarries.nodes fields criteria rfl hcriteria entry hentry)
      have hkeepEdges : ∀ edges,
          keepEdges (Fields.getD fields "edges").portable edges =
            keepEdges (Fields.getD fields "edges") edges :=
        keep_portable hedges fun criteria hcriteria entry hentry hdata e =>
          congrArg Outcome.closed
            (edgeField_portable e hdata (hcarries.edges fields criteria rfl hcriteria entry hentry))
      have happly : applyFields graph fields.portable part = applyFields graph fields part := by
        simp only [applyFields, Fields.getD_portable, isTruthy_portable hnodes, isTruthy_portable hedges,
          hkeepNodes, hkeepEdges, cascades_portable]
      simp only [mapping?, Option.map_some, happly]
  | _ => rfl

end Filter

/-! ## Sets -/

namespace FilterSetRecord

/-- Whether a set has a mapping of data as its configuration and valid times. -/
structure HasData (r : FilterSetRecord) : Prop where
  config : ∃ fields, r.config = .mapping fields
  isData : r.config.IsData
  created : r.created.IsValid
  updated : ∀ t ∈ r.updated, t.IsValid

/-- The set with the copy of its configuration. -/
def copied (r : FilterSetRecord) : FilterSetRecord := { r with config := r.config.portable }

theorem HasData.isPlain_copied {r : FilterSetRecord} (h : r.HasData) : r.copied.IsPlain where
  config := by
    obtain ⟨fields, hfields⟩ := h.config
    have hdata := h.isData
    rw [hfields] at hdata
    cases hdata with
    | mapping _ hentries =>
        refine ⟨Fields.portable fields, ?_⟩
        rw [copied, hfields]
        exact Value.portable_mapping hentries
  isJson := h.isData.isJson_portable
  created := h.created
  updated := h.updated

theorem HasData.exported_copied {r : FilterSetRecord} (h : r.HasData) : r.copied.exported = r.exported := by
  rw [exported, exported, copied, h.isData.isJson_portable.portable_eq]

end FilterSetRecord

namespace FilterSets

variable {sets : FilterSets}

/-- Whether filter sets are named by distinct texts and have data as configurations. -/
structure HaveData (sets : FilterSets) : Prop where
  names : ∀ entry ∈ sets, ∃ s, entry.1 = .text s
  distinct : (sets.map (·.1)).Nodup
  records : ∀ entry ∈ sets, entry.2.HasData

/-- The sets with the copies of their configurations. -/
def copied (sets : FilterSets) : FilterSets := sets.map fun entry => (entry.1, entry.2.copied)

theorem HaveData.isPlain_copied (h : sets.HaveData) : sets.copied.IsPlain where
  names := List.forall_mem_map.2 h.names
  distinct := by
    rw [copied, List.map_map]
    exact h.distinct
  records := List.forall_mem_map.2 fun entry hentry => (h.records entry hentry).isPlain_copied

theorem HaveData.exported_copied (h : sets.HaveData) : sets.copied.exported = sets.exported := by
  rw [exported, exported, copied, List.map_map]
  refine congrArg Value.table (List.map_congr_left ?_)
  intro entry hentry
  exact congrArg (Prod.mk entry.1.value) (h.records entry hentry).exported_copied

/-- The copies are written as the originals are. -/
theorem HaveData.serialize_copied (h : sets.HaveData) : sets.copied.serialize = sets.serialize := by
  have hkeys : (sets.copied.any fun entry => entry.2.config.hasLongKey) =
      sets.any fun entry => entry.2.config.hasLongKey := by
    rw [copied, List.any_map, Bool.eq_iff_iff, List.any_eq_true, List.any_eq_true]
    refine exists_congr fun entry => and_congr_right fun hentry => ?_
    have hdata := (h.records entry hentry).isData
    show entry.2.config.portable.hasLongKey = true ↔ _
    rw [hdata.isJson_portable.hasLongKey_eq_false, hdata.hasLongKey_eq_false]
  rw [serialize, serialize, h.exported_copied, hkeys]

/-- Sets leave of a graph what their copies leave of it. -/
theorem applyFrom_copied
    (h : ∀ entry ∈ sets, entry.2.config.IsData ∧ Filter.CarriesSelection entry.2.config)
    (graph part : Snapshot) : applyFrom graph sets.copied part = applyFrom graph sets part := by
  induction sets generalizing part with
  | nil =>
      rfl
  | cons entry rest ih =>
      obtain ⟨name, r⟩ := entry
      obtain ⟨⟨hdata, hcarries⟩, hrest⟩ := List.forall_mem_cons.1 h
      have hfirst : Filter.apply graph r.copied.config part = Filter.apply graph r.config part :=
        Filter.apply_portable hdata hcarries graph part
      show applyFrom graph ((name, r.copied) :: copied rest) part = _
      rw [applyFrom, applyFrom, hfirst]
      simp only [ih hrest]
      rfl

/-- Where one kind of collection is as good as another, sets that are exported and read back select the same:
what is read, where there is room for it, are their copies, marked as imported, and each of these leaves the same of
every part of a graph, and so do all together. -/
theorem selection_afterExport (hdata : sets.HaveData)
    (hcarries : ∀ entry ∈ sets, Filter.CarriesSelection entry.2.config) {runtime : Runtime} {text : String}
    (htext : sets.serializeAt runtime = .ok text) {reading : Runtime} (htime : ReadsTimes reading.time)
    (now : Timestamp) :
    parse now (.text text) reading.reader =
        (if sets.exported.openDepth ≤ reading.reads then .ok (sets.copied.importedAt now)
          else .error .nestedTooDeep) ∧
      (∀ entry ∈ sets, ∀ graph part,
        Filter.apply graph entry.2.config.portable part = Filter.apply graph entry.2.config part) ∧
      ∀ graph, (sets.copied.importedAt now).applyAll graph = sets.applyAll graph := by
  have hcopied : sets.copied.serialize = .ok text :=
    hdata.serialize_copied.trans (serializeAt_eq_ok_iff.1 htext).2
  refine ⟨?_, ?_, ?_⟩
  · rw [← hdata.exported_copied]
    exact parse_serialize hdata.isPlain_copied hcopied htime now
  · intro entry hentry graph part
    exact Filter.apply_portable (hdata.records entry hentry).isData (hcarries entry hentry) graph part
  · intro graph
    rw [applyAll_importedAt]
    exact applyFrom_copied (fun entry hentry => ⟨(hdata.records entry hentry).isData, hcarries entry hentry⟩)
      graph graph

/-- One set with criteria for nodes. -/
def setFor (criteria : Fields) : FilterSets :=
  [(.text "s", ⟨.mapping [("nodes", .mapping criteria)], true, FilterShelf.newYear, none, none⟩)]

theorem haveData_setFor {criteria : Fields} (h : (Value.mapping criteria).IsData) : (setFor criteria).HaveData where
  names := List.forall_mem_singleton.2 ⟨"s", rfl⟩
  distinct := List.nodup_singleton _
  records := List.forall_mem_singleton.2
    { config := ⟨_, rfl⟩
      isData := .mapping (List.nodup_singleton _) (List.forall_mem_singleton.2 h)
      created := FilterShelf.isValid_newYear
      updated := fun _ h => absurd h (Option.not_mem_none _) }

/-- Types are listed in a tuple, and a property must be a member of a set. -/
def looseCriteria : Fields :=
  [("type", .tuple [.text "t", .text "u"]),
    ("properties", .mapping [("p", QuickFilter.criterion "in" (.set false [.int 1, .int 2]))])]

theorem isData_looseCriteria : (Value.mapping looseCriteria).IsData := by
  have htypes : (Value.tuple [.text "t", .text "u"]).IsData :=
    .tuple (List.forall_mem_cons.2 ⟨.text "t", List.forall_mem_singleton.2 (.text "u")⟩)
  have hmembers : (Value.set false [.int 1, .int 2]).IsData :=
    .set (List.forall_mem_cons.2 ⟨.int 1, List.forall_mem_singleton.2 (.int 2)⟩)
  have hcriterion : (QuickFilter.criterion "in" (.set false [.int 1, .int 2])).IsData :=
    .mapping (by decide) (List.forall_mem_cons.2 ⟨.text "in", List.forall_mem_singleton.2 hmembers⟩)
  refine .mapping (by decide) (List.forall_mem_cons.2 ⟨htypes, List.forall_mem_singleton.2 ?_⟩)
  exact .mapping (List.nodup_singleton _) (List.forall_mem_singleton.2 hcriterion)

theorem carriesSelection_looseCriteria :
    Filter.CarriesSelection (.mapping [("nodes", .mapping looseCriteria)]) where
  nodes := by
    rintro _ _ ⟨⟩ ⟨⟩
    refine List.forall_mem_cons.2 ⟨nofun, List.forall_mem_singleton.2 ?_⟩
    rintro _ ⟨⟩
    refine List.forall_mem_singleton.2 ?_
    show Operator.CarriesToAll .oneOf (.set false [.int 1, .int 2])
    refine ⟨⟨nofun, nofun⟩, nofun, ?_⟩
    rintro - _ ⟨⟩
    exact List.forall_mem_cons.2 ⟨⟨.int 1, nofun⟩, List.forall_mem_singleton.2 ⟨.int 2, nofun⟩⟩
  edges := by
    rintro _ _ ⟨⟩ ⟨⟩

/-- The set with these criteria is exported and read back, and leaves the same of every graph. -/
theorem selection_afterExport_looseCriteria :
    ∃ text, (setFor looseCriteria).serializeAt .usual = .ok text ∧
      ∃ back, parse FilterShelf.newYear (.text text) = .ok back ∧
        ∀ graph, back.applyAll graph = (setFor looseCriteria).applyAll graph := by
  have hwritten : ((setFor looseCriteria).serializeAt .usual).toOption.isSome = true := by
    decide +kernel
  have hroom : (setFor looseCriteria).exported.openDepth ≤ Runtime.usual.reads := by decide
  obtain ⟨text, htext⟩ := Outcome.exists_eq_ok_of_isSome hwritten
  obtain ⟨hread, -, hsame⟩ := selection_afterExport (haveData_setFor isData_looseCriteria)
    (List.forall_mem_singleton.2 carriesSelection_looseCriteria) htext Runtime.readsTimes_usual FilterShelf.newYear
  exact ⟨text, htext, _, hread.trans (if_pos hroom), hsame⟩

/-- A property must be a pair of numbers. -/
def pairCriteria : Fields := [("properties", .mapping [("p", .tuple [.int 1, .int 2])])]

/-- A node with this pair. -/
def pairGraph : Snapshot := ⟨[⟨.int 1, none, none, [("p", .tuple [.int 1, .int 2])], [], []⟩], []⟩

theorem isData_pairCriteria : (Value.mapping pairCriteria).IsData := by
  have hpair : (Value.tuple [.int 1, .int 2]).IsData :=
    .tuple (List.forall_mem_cons.2 ⟨.int 1, List.forall_mem_singleton.2 (.int 2)⟩)
  refine .mapping (List.nodup_singleton _) (List.forall_mem_singleton.2 ?_)
  exact .mapping (List.nodup_singleton _) (List.forall_mem_singleton.2 hpair)

/-- A property that is a tuple is selected before an export, but not after it. -/
theorem selection_lostByExport :
    (setFor pairCriteria).HaveData ∧ ∃ text back, (setFor pairCriteria).serializeAt .usual = .ok text ∧
      parse FilterShelf.newYear (.text text) = .ok back ∧
      ((setFor pairCriteria).applyAll pairGraph).toOption.map (·.nodeIds) = some [.int 1] ∧
      (back.applyAll pairGraph).toOption.map (·.nodeIds) = some [] := by
  have hdata := haveData_setFor isData_pairCriteria
  have hwritten : ((setFor pairCriteria).serializeAt .usual).toOption.isSome = true := by
    decide +kernel
  have hroom : (setFor pairCriteria).copied.exported.openDepth ≤ Runtime.usual.reads := by decide
  obtain ⟨text, htext⟩ := Outcome.exists_eq_ok_of_isSome hwritten
  have hcopied := hdata.serialize_copied.trans (serializeAt_eq_ok_iff.1 htext).2
  have hparse := parse_serialize hdata.isPlain_copied hcopied Runtime.readsTimes_usual FilterShelf.newYear
  refine ⟨hdata, text, _, htext, hparse.trans (if_pos hroom), by decide +kernel, ?_⟩
  -- What is read back holds the list of the two numbers, which is not the tuple.
  rw [applyAll_importedAt]
  decide +kernel

end FilterSets
end GraphQuery
