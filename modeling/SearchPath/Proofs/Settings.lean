import Mathlib.Algebra.Group.Nat.Defs
import Mathlib.Algebra.Module.Submodule.Lattice
import Mathlib.Computability.Primrec.List
import SearchPath.Proofs.Json.Reading
import SearchPath.Proofs.Json.Writing
import SearchPath.Settings

/-!
# Settings in JSON

1. Every field is written as one value (`spells_writeField`) and read from it again
   (`setField_valueOf`); fields are taken over one after the other, whatever their order
   (`setMembers_of_tells`).
2. `Tells` says which objects tell settings: those with what is written for some fields, among other
   members and in any order, if the fields that are left out are as in the standard settings
   (`tells_of_perm`).
3. Main result (`json_round_trip`): settings are read again from what is written for them, and the
   same is read from every spelling of an object that tells them.
-/

namespace SearchPath.Settings

open SearchPath.Json

/-! ## Fields -/

/-- What a field holds. -/
def get (settings : Settings) : Field → List String ⊕ Nat
  | .list which => .inl (settings.getList which)
  | .maxContainers => .inr settings.maxContainers

/-- Settings are what their fields hold. -/
theorem ext_get {a b : Settings} (h : ∀ field, a.get field = b.get field) : a = b := by
  have hlist (which : SettingsList) : a.getList which = b.getList which :=
    Sum.inl.inj (h (.list which))
  have hmax : a.maxContainers = b.maxContainers := Sum.inr.inj (h .maxContainers)
  cases a
  cases b
  simp only [mk.injEq]
  exact ⟨hlist .acceptPackages, hlist .rejectPackages, hlist .acceptPaths, hlist .rejectPaths,
    hlist .acceptClasses, hlist .acceptResourcePaths, hlist .rejectResourcePaths, hmax⟩

theorem mem_all (field : Field) : field ∈ Field.all := by
  rcases field with which | _
  · cases which <;> decide
  · decide

/-- A field is found by its key. -/
theorem ofKey?_key (field : Field) : Field.ofKey? field.key.toList = some field := by
  have hall : ∀ field ∈ Field.all, Field.ofKey? field.key.toList = some field := by decide
  exact hall field (mem_all field)

/-- The settings with a field of others. -/
def copy (settings current : Settings) : Field → Settings
  | .list which => current.setList (settings.getList which) which
  | .maxContainers => { current with maxContainers := settings.maxContainers }

theorem get_copy (settings current : Settings) (field other : Field) :
    (settings.copy current field).get other =
      if other = field then settings.get other else current.get other := by
  rcases field with which | _ <;> rcases other with which' | _
  · cases which <;> cases which' <;> rfl
  · cases which <;> rfl
  · cases which' <;> rfl
  · rfl

theorem get_foldl_copy (settings : Settings) (fields : List Field) (current : Settings)
    (other : Field) : (fields.foldl settings.copy current).get other =
      if other ∈ fields then settings.get other else current.get other := by
  induction fields generalizing current with
  | nil => rfl
  | cons field rest ih =>
    rw [List.foldl_cons, ih, get_copy]
    by_cases hrest : other ∈ rest
    · simp [hrest]
    · by_cases hfield : other = field <;> simp [hrest, hfield]

/-! ## Values -/

/-- The value of a field in JSON. -/
def valueOf (settings : Settings) : Field → Value
  | .list which => .array ((settings.getList which).map fun text => .text (pointsOf text.toList))
  | .maxContainers => .number (Text.decimal settings.maxContainers)

/-- A field is written as its value. -/
theorem spells_writeField (settings : Settings) (field : Field) :
    Spells (settings.writeField field) (settings.valueOf field) := by
  cases field with
  | list which =>
    have h := spells_writeTexts ((settings.getList which).map String.toList)
    rwa [List.map_map] at h
  | maxContainers => exact .number (isNumber_decimal _)

theorem readTexts_texts (texts : List String) :
    readTexts (.array (texts.map fun text => .text (pointsOf text.toList))) = some texts := by
  unfold readTexts
  dsimp only
  induction texts with
  | nil => rfl
  | cons text rest ih =>
    have htext : readText (.text (pointsOf text.toList)) = some text := by
      rw [readText, textOf_pointsOf, Option.map_some, String.ofList_toList]
    rw [List.map_cons, List.mapM_cons, htext, ih]
    rfl

/-- A field is read from its value. -/
theorem setField_valueOf {settings : Settings} (hlimit : settings.maxContainers ≤ capacityLimit)
    (current : Settings) (field : Field) :
    current.setField (settings.valueOf field) field = some (settings.copy current field) := by
  cases field with
  | list which =>
    show (readTexts (.array _)).map _ = _
    rw [readTexts_texts]
    rfl
  | maxContainers =>
    show (readCapacity (.number _)).map _ = _
    unfold readCapacity
    dsimp only
    rw [readDigits_decimal, Option.filter_some, if_pos (by simpa using hlimit)]
    rfl

/-! ## Members -/

/-- The member that is written for a field. -/
def written (settings : Settings) (field : Field) : List Nat × Value :=
  (pointsOf field.key.toList, settings.valueOf field)

/-- The field that a member is about. -/
def fieldOf (member : List Nat × Value) : Option Field :=
  (textOf member.1).bind Field.ofKey?

theorem fieldOf_written (settings : Settings) (field : Field) :
    fieldOf (settings.written field) = some field := by
  unfold fieldOf written
  rw [textOf_pointsOf, Option.bind_some, ofKey?_key]

/-- The fields that members are about. -/
def fieldsOf (members : List (List Nat × Value)) : List Field :=
  members.filterMap fieldOf

theorem fieldsOf_map_written (settings : Settings) (fields : List Field) :
    fieldsOf (fields.map settings.written) = fields := by
  unfold fieldsOf
  rw [List.filterMap_map]
  exact (List.filterMap_congr fun field _ => settings.fieldOf_written field).trans
    List.filterMap_some

/-- The members of an object tell settings, in any order: fields with their values, none of them
twice, and others. What is left out is as in the standard settings. -/
structure Tells (settings : Settings) (members : List (List Nat × Value)) : Prop where
  keys : ∀ member ∈ members, (textOf member.1).isSome
  once : (fieldsOf members).Nodup
  values : ∀ member ∈ members, ∀ field, fieldOf member = some field →
    member.2 = settings.valueOf field
  left_out : ∀ field, field ∉ fieldsOf members → settings.get field = standard.get field

/-- Settings are told by what is written for the fields that are kept, among members with other
keys and in any order. -/
theorem tells_of_perm {settings : Settings} {kept : List Field}
    {others members : List (List Nat × Value)}
    (hperm : members.Perm (kept.map settings.written ++ others)) (hkept : kept.Nodup)
    (hothers : ∀ member ∈ others, (textOf member.1).isSome ∧ fieldOf member = none)
    (hleft : ∀ field, field ∉ kept → settings.get field = standard.get field) :
    Tells settings members := by
  have hfields : (fieldsOf members).Perm kept := by
    refine (hperm.filterMap fieldOf).trans (.of_eq ?_)
    rw [List.filterMap_append, List.filterMap_eq_nil_iff.2 fun member hm => (hothers member hm).2,
      List.append_nil]
    exact settings.fieldsOf_map_written kept
  have hcases (member : List Nat × Value) (hm : member ∈ members) :
      (∃ field, settings.written field = member) ∨ member ∈ others := by
    rcases List.mem_append.1 (hperm.mem_iff.1 hm) with hm | hm
    · obtain ⟨field, -, he⟩ := List.mem_map.1 hm
      exact .inl ⟨field, he⟩
    · exact .inr hm
  refine ⟨fun member hm => ?_, hfields.nodup_iff.2 hkept, fun member hm field hfield => ?_,
    fun field hout => hleft field fun hm => hout (hfields.mem_iff.2 hm)⟩
  · obtain ⟨field, rfl⟩ | hm := hcases member hm
    · exact Option.isSome_iff_exists.2 ⟨_, textOf_pointsOf _⟩
    · exact (hothers member hm).1
  · obtain ⟨other, rfl⟩ | hm := hcases member hm
    · obtain rfl := Option.some.inj ((settings.fieldOf_written other).symm.trans hfield)
      rfl
    · exact absurd (hfield.symm.trans (hothers member hm).2) (Option.some_ne_none field)

theorem setMembers_of_fieldOf {current : Settings} {seen : List Field}
    {member : List Nat × Value} {rest : List (List Nat × Value)}
    (hkey : (textOf member.1).isSome) :
    setMembers current seen (member :: rest) =
      match fieldOf member with
      | none => setMembers current seen rest
      | some field =>
        if field ∈ seen then none
        else (current.setField member.2 field).bind fun next =>
          setMembers next (field :: seen) rest := by
  obtain ⟨name, hname⟩ := Option.isSome_iff_exists.1 hkey
  unfold fieldOf
  rw [setMembers, hname]
  rfl

/-- **Members.** Their fields are taken over one after the other. -/
theorem setMembers_of_tells {settings : Settings}
    (hlimit : settings.maxContainers ≤ capacityLimit) {members : List (List Nat × Value)}
    (hkeys : ∀ member ∈ members, (textOf member.1).isSome)
    (hvalues : ∀ member ∈ members, ∀ field, fieldOf member = some field →
      member.2 = settings.valueOf field)
    (honce : (fieldsOf members).Nodup) {seen : List Field}
    (hseen : ∀ field ∈ fieldsOf members, field ∉ seen) (current : Settings) :
    setMembers current seen members = some ((fieldsOf members).foldl settings.copy current) := by
  induction members generalizing current seen with
  | nil => rfl
  | cons member rest ih =>
    have hrest := ih (fun m hm => hkeys m (List.mem_cons_of_mem _ hm))
      (fun m hm => hvalues m (List.mem_cons_of_mem _ hm))
    rw [setMembers_of_fieldOf (hkeys member List.mem_cons_self)]
    cases hfield : fieldOf member with
    | none =>
      have hfields : fieldsOf (member :: rest) = fieldsOf rest := List.filterMap_cons_none hfield
      rw [hfields] at honce hseen ⊢
      exact hrest honce hseen current
    | some field =>
      have hfields : fieldsOf (member :: rest) = field :: fieldsOf rest :=
        List.filterMap_cons_some hfield
      rw [hfields] at honce hseen ⊢
      obtain ⟨hnew, honce⟩ := List.nodup_cons.1 honce
      dsimp only
      rw [if_neg (hseen field List.mem_cons_self),
        hvalues member List.mem_cons_self field hfield, setField_valueOf hlimit]
      refine hrest honce (fun other ho hm => ?_) _
      rcases List.mem_cons.1 hm with rfl | hm
      · exact hnew ho
      · exact hseen other (List.mem_cons_of_mem _ ho) hm

/-- Members that tell settings are read as these. -/
theorem Tells.setMembers_eq {settings : Settings} {members : List (List Nat × Value)}
    (h : Tells settings members) (hlimit : settings.maxContainers ≤ capacityLimit) :
    setMembers standard [] members = some settings := by
  rw [setMembers_of_tells hlimit h.keys h.values h.once fun _ _ hm => List.not_mem_nil hm]
  refine congrArg some (ext_get fun field => ?_)
  rw [get_foldl_copy]
  split
  next => rfl
  next hout => exact (h.left_out field hout).symm

/-! ## Texts -/

/-- A text that spells an object whose members tell settings is read as these. -/
theorem Tells.ofJson_eq {settings : Settings} {members : List (List Nat × Value)}
    (h : Tells settings members) (hlimit : settings.maxContainers ≤ capacityLimit) {json : String}
    (hjson : SpellsSpaced json.toList (.object members)) : ofJson json = settings.checked := by
  unfold ofJson
  rw [parse_of_spells hjson, Option.bind_some, ofValue, h.setMembers_eq hlimit]

/-- What is written for settings spells an object that tells them. -/
theorem exists_spells_toJson (settings : Settings) :
    ∃ members, Tells settings members ∧ SpellsSpaced settings.toJson.toList (.object members) := by
  refine ⟨Field.all.map settings.written, ?_, ?_⟩
  · exact tells_of_perm (.of_eq (List.append_nil _).symm) (by decide)
      (fun _ hm => absurd hm List.not_mem_nil) fun field hout => absurd (mem_all field) hout
  · unfold toJson
    rw [String.toList_ofList]
    exact (spells_writeObject Field.all (·.key.toList) settings.writeField
      fun field _ => settings.spells_writeField field).spaced

/-- **Round trip.** Settings that are written as JSON are read again, unless no container may be
open; and what is read is the same for any order of the fields, with unknown members among them,
without fields that are as in the standard settings, and however the whole is spelled. -/
theorem json_round_trip (settings : Settings) (hmax : settings.maxContainers < 2 ^ 64) :
    (1 ≤ settings.maxContainers → ofJson settings.toJson = .ok settings) ∧
      (settings.maxContainers = 0 →
        ofJson settings.toJson = .error (.config .noContainers)) ∧
      ∀ members json, Tells settings members → SpellsSpaced json.toList (.object members) →
        ofJson json = ofJson settings.toJson := by
  have hlimit : settings.maxContainers ≤ capacityLimit := Nat.le_pred_of_lt hmax
  have hwritten : ofJson settings.toJson = settings.checked := by
    obtain ⟨members, htells, hspells⟩ := settings.exists_spells_toJson
    exact htells.ofJson_eq hlimit hspells
  refine ⟨fun hsome => ?_, fun hnone => ?_, fun members json htells hspells => ?_⟩
  · rw [hwritten, checked, if_neg (Nat.one_le_iff_ne_zero.1 hsome)]
  · rw [hwritten, checked, if_pos hnone]
  · rw [hwritten, htells.ofJson_eq hlimit hspells]

/-- Settings with characters that are escaped, some that are not, and the largest capacity. -/
def awkward : Settings :=
  { standard with
    acceptPackages := ["a\"b\\\n\x01é😀", ""]
    maxContainers := 2 ^ 64 - 1 }

theorem json_round_trip_awkward :
    awkward.maxContainers < 2 ^ 64 ∧ ofJson awkward.toJson = .ok awkward ∧
      ofJson (" \x7b \"\\u0078\":[null,\x7b\"\":\"\\ud800\"\x7d] ,\n"
        ++ "\"max_containers\": 18446744073709551615,"
        ++ "\"accept_packages\":[\"a\\\"b\\\\\\n\\u0001é😀\",\"\"]\x7d") = .ok awkward := by
  have hmax : awkward.maxContainers < 2 ^ 64 := by decide
  obtain ⟨hsome, -, hany⟩ := json_round_trip awkward hmax
  have htells : Tells awkward
      ([(pointsOf ['x'], .array [.null, .object [([], .text [0xD800])]])] ++
        [.maxContainers, .list .acceptPackages].map awkward.written) := by
    refine tells_of_perm List.perm_append_comm (by decide) (by decide) fun field => ?_
    have hall : ∀ field ∈ Field.all, field ∉ [.maxContainers, .list .acceptPackages] →
        awkward.get field = standard.get field := by decide
    exact hall field (mem_all field)
  exact ⟨hmax, hsome (by decide),
    (hany _ _ htells (parse_eq_some_iff.1 (by cbv))).trans (hsome (by decide))⟩

end SearchPath.Settings
