import SalesDesk.Log
import SalesDesk.Proofs.Json.Reading

/-!
# Lines of the log

A record with a context of plain data is one line without control characters, and the line says all
there is in the record: the record's own fields, the lifted details under their names, and the other
details in their order under `context`. Nothing in a context can take the place of a field. No line is
made of a context with an integer of too many digits or with values that are nested too deeply.
-/

namespace SalesDesk

namespace Detail

theorem itemsToJson_eq_map (items : List Detail) : itemsToJson items = items.map toJson := by
  induction items with
  | nil => rfl
  | cons d rest ih => rw [itemsToJson, ih, List.map_cons]

theorem membersToJson_eq_map (members : List (String × Detail)) :
    membersToJson members = members.map fun m => (m.1, toJson m.2) := by
  induction members with
  | nil => rfl
  | cons m rest ih => rw [membersToJson, ih, List.map_cons]

theorem itemsOfJson_eq_map (items : List Json) : itemsOfJson items = items.map ofJson := by
  induction items with
  | nil => rfl
  | cons v rest ih => rw [itemsOfJson, ih, List.map_cons]

theorem membersOfJson_eq_map (members : List (String × Json)) :
    membersOfJson members = members.map fun m => (m.1, ofJson m.2) := by
  induction members with
  | nil => rfl
  | cons m rest ih => rw [membersOfJson, ih, List.map_cons]

theorem membersOfJson_append (members more : List (String × Json)) :
    membersOfJson (members ++ more) = membersOfJson members ++ membersOfJson more := by
  simp only [membersOfJson_eq_map, List.map_append]

/-- Plain data goes through the details unchanged. -/
theorem toJson_ofJson (v : Json) : (ofJson v).toJson = v := by
  induction v using Json.induction with
  | null | bool | int | float | str => rfl
  | arr items ih =>
    rw [ofJson, toJson, itemsOfJson_eq_map, itemsToJson_eq_map, List.map_map]
    exact congrArg Json.arr ((List.map_congr_left ih).trans (List.map_id items))
  | obj members ih =>
    have hmembers : ∀ m ∈ members, (m.1, toJson (ofJson m.2)) = m := fun m hm => by rw [ih m hm]
    rw [ofJson, toJson, membersOfJson_eq_map, membersToJson_eq_map, List.map_map]
    exact congrArg Json.obj ((List.map_congr_left hmembers).trans (List.map_id members))

/-! ## What can be written -/

variable {room : Nat}

theorem faultOfItems?_eq_none_iff {items : List Detail} :
    faultOfItems? room items = none ↔ ∀ d ∈ items, d.fault? room = none := by
  induction items with
  | nil => simp [faultOfItems?]
  | cons d rest ih => simp [faultOfItems?, ih]

theorem faultOfMembers?_eq_none_iff {members : List (String × Detail)} :
    faultOfMembers? room members = none ↔ ∀ m ∈ members, m.2.fault? room = none := by
  induction members with
  | nil => simp [faultOfMembers?]
  | cons m rest ih => simp [faultOfMembers?, ih]

/-- Plain data can be written if its integers are short enough and there is room for its depth, and not
otherwise. -/
theorem fault?_ofJson_eq_none_iff (v : Json) (room : Nat) :
    (ofJson v).fault? room = none ↔ v.Within Json.maxDigits room := by
  induction v using Json.induction generalizing room with
  | null => exact ⟨fun _ => .null, fun _ => rfl⟩
  | bool b => exact ⟨fun _ => .bool b, fun _ => rfl⟩
  | float x => exact ⟨fun _ => .float x, fun _ => rfl⟩
  | str s => exact ⟨fun _ => .str s, fun _ => rfl⟩
  | int n =>
    have hshort : isTooLong n = false ↔ (Decimal.digits n.natAbs).length ≤ Json.maxDigits := by
      simp [isTooLong]
    constructor
    · intro h
      refine .int n (hshort.mp ?_)
      by_contra hlong
      simp [ofJson, fault?, hlong] at h
    · intro h
      cases h with
      | int _ hlength => simp [ofJson, fault?, hshort.mpr hlength]
  | arr items ih =>
    cases room with
    | zero => exact ⟨nofun, nofun⟩
    | succ room =>
      have hitems : (ofJson (.arr items)).fault? (room + 1) = faultOfItems? room (itemsOfJson items) :=
        rfl
      rw [hitems, faultOfItems?_eq_none_iff, Json.within_arr_iff, itemsOfJson_eq_map,
        List.forall_mem_map]
      exact forall₂_congr fun v hv => ih v hv room
  | obj members ih =>
    cases room with
    | zero => exact ⟨nofun, nofun⟩
    | succ room =>
      have hmembers : (ofJson (.obj members)).fault? (room + 1) =
          faultOfMembers? room (membersOfJson members) := rfl
      rw [hmembers, faultOfMembers?_eq_none_iff, Json.within_obj_iff, membersOfJson_eq_map,
        List.forall_mem_map]
      exact forall₂_congr fun m hm => ih m hm room

end Detail

namespace Log

variable {context : Table Json}

/-- The names that the members of a line may have, in their order. -/
def fieldNames : List String :=
  ["timestamp", "service", "level", "logger", "message", "tenant_id", "conversation_id", "context"]

/-- The details of plain data that are not lifted. -/
def remaining (context : Table Json) : Table Json :=
  context.filter fun m => m.1 ≠ "tenant_id" ∧ m.1 ≠ "conversation_id"

theorem lifted_membersOfJson (context : Table Json) :
    lifted (Detail.membersOfJson context) = Detail.membersOfJson
      (correlationKeys.filterMap fun key => (context.find? key).map fun v => (key, v)) := by
  simp only [lifted, Detail.membersOfJson_eq_map, Table.find?_map, List.map_filterMap,
    Option.map_map, Function.comp_def]

theorem kept_membersOfJson (context : Table Json) :
    kept (Detail.membersOfJson context) = Detail.membersOfJson (remaining context) := by
  simp [kept, remaining, correlationKeys, Detail.membersOfJson_eq_map, List.filter_map,
    Function.comp_def]

/-- The fields that every line has. -/
def headOf (time : Timestamp) (level : Level) (logger message : String) : Table Json :=
  [("timestamp", .str time.iso), ("service", .str serviceName), ("level", .str level.name),
    ("logger", .str logger), ("message", .str message)]

/-- The members of the line of a record with a context of plain data. -/
def shown (time : Timestamp) (level : Level) (logger message : String) (context : Table Json) :
    Table Json :=
  headOf time level logger message ++
    (correlationKeys.filterMap fun key => (context.find? key).map fun v => (key, v)) ++
    if remaining context = [] then [] else [("context", .obj (remaining context))]

section Shown

variable (time : Timestamp) (level : Level) (logger message : String)

theorem detail_of_plain : Record.detail ⟨time, level, logger, message,
    Detail.membersOfJson context, none⟩ =
      .ofJson (.obj (shown time level logger message context)) := by
  have hempty : (Detail.membersOfJson (remaining context)).isEmpty = (remaining context).isEmpty := by
    rw [Detail.membersOfJson_eq_map, List.isEmpty_map]
  simp only [Record.detail, lifted_membersOfJson, kept_membersOfJson, hempty, List.isEmpty_iff,
    Option.toList_none, List.map_nil, List.append_nil, Detail.ofJson, shown,
    Detail.membersOfJson_append]
  split_ifs <;> rfl

/-- The names of the members come in the order of the fields, none of them twice. -/
theorem names_shown_sublist (context : Table Json) :
    ((shown time level logger message context).names).Sublist fieldNames := by
  have hlifted : (correlationKeys.filter fun key => (context.find? key).isSome).Sublist
      correlationKeys := List.filter_sublist
  have hcontext : (Table.names (if remaining context = [] then []
      else [("context", Json.obj (remaining context))])).Sublist ["context"] := by
    split_ifs
    · exact List.nil_sublist _
    · exact List.Sublist.refl _
  rw [shown, Table.names_append, Table.names_append, Table.names_filterMap]
  exact ((List.Sublist.refl _).append hlifted).append hcontext

theorem distinct_shown (h : (Json.obj context).Distinct) :
    (Json.obj (shown time level logger message context)).Distinct := by
  cases h with
  | obj hnames hvalues =>
    refine .obj ((names_shown_sublist time level logger message context).nodup (by decide)) ?_
    intro m hm
    rcases List.mem_append.mp hm with hm | hm
    · rcases List.mem_append.mp hm with hm | hm
      · -- The record's own fields are texts.
        simp only [headOf, List.mem_cons, List.not_mem_nil, or_false] at hm
        rcases hm with rfl | rfl | rfl | rfl | rfl <;> exact .str _
      · obtain ⟨key, -, hkey⟩ := List.mem_filterMap.mp hm
        obtain ⟨v, hv, rfl⟩ := Option.map_eq_some_iff.mp hkey
        exact hvalues _ ((Table.find?_eq_some_iff hnames).mp hv)
    · split_ifs at hm
      · exact nomatch hm
      · rw [List.mem_singleton.mp hm]
        exact .obj (hnames.sublist (List.filter_sublist.map _)) fun m hm =>
          hvalues m (List.mem_of_mem_filter hm)

theorem find?_shown (name : String) : (shown time level logger message context).find? name =
    ((Table.find? (headOf time level logger message) name).or
        (if name ∈ correlationKeys then context.find? name else none)).or
          (if remaining context = [] then none
            else if "context" = name then some (.obj (remaining context)) else none) := by
  rw [shown, Table.find?_append, Table.find?_append, Table.find?_filterMap]
  split_ifs <;> simp [Table.find?, *]

end Shown

/-- What the members of a line tell of a record with a context of plain data: each field of the
record, the two lifted details where the context has them, and the others as they stand in it. -/
structure Tells (time : Timestamp) (level : Level) (logger message : String)
    (context top : Table Json) : Prop where
  nodup : top.names.Nodup
  names : ∀ name ∈ top.names, name ∈ fieldNames
  timestamp : top.find? "timestamp" = some (.str time.iso)
  service : top.find? "service" = some (.str serviceName)
  level : top.find? "level" = some (.str level.name)
  logger : top.find? "logger" = some (.str logger)
  message : top.find? "message" = some (.str message)
  tenant : top.find? "tenant_id" = context.find? "tenant_id"
  conversation : top.find? "conversation_id" = context.find? "conversation_id"
  context : top.find? "context" =
    if remaining context = [] then none else some (.obj (remaining context))

theorem tells_shown (time : Timestamp) (level : Level) (logger message : String)
    (context : Table Json) :
    Tells time level logger message context (shown time level logger message context) := by
  have hnames := names_shown_sublist time level logger message context
  constructor
  case nodup => exact hnames.nodup (by decide)
  case names => exact fun name hname => hnames.mem hname
  case tenant | conversation | context =>
    simp [find?_shown, Table.find?, headOf, correlationKeys]
  all_goals rfl

/-- There is room to write a context where lists and maps may be nested `room` deep below a record: for
the details that are lifted, and for the others, which stand in an object of their own. No integer in
them is too long. -/
structure Fits (room : Nat) (context : Table Json) : Prop where
  lifted : ∀ key ∈ correlationKeys, ∀ v, context.find? key = some v → v.Within Json.maxDigits room
  remaining : remaining context ≠ [] →
    (Json.obj (remaining context)).Within Json.maxDigits room

theorem within_shown_iff (time : Timestamp) (level : Level) (logger message : String)
    {context : Table Json} {room : Nat} :
    (Json.obj (shown time level logger message context)).Within Json.maxDigits (room + 1) ↔
      Fits room context := by
  have hhead : ∀ m ∈ headOf time level logger message, m.2.Within Json.maxDigits room := by
    intro m hm
    simp only [headOf, List.mem_cons, List.not_mem_nil, or_false] at hm
    rcases hm with rfl | rfl | rfl | rfl | rfl <;> exact .str _
  have hlifted (key : String) (v : Json) (hkey : key ∈ correlationKeys)
      (hv : context.find? key = some v) : (key, v) ∈ shown time level logger message context := by
    refine List.mem_append_left _ (List.mem_append_right _ (List.mem_filterMap.mpr ⟨key, hkey, ?_⟩))
    rw [hv]
    rfl
  rw [Json.within_obj_iff]
  constructor
  · intro h
    refine ⟨fun key hkey v hv => h _ (hlifted key v hkey hv), fun hne => h ("context", _) ?_⟩
    refine List.mem_append_right _ ?_
    rw [if_neg hne]
    exact List.mem_singleton_self _
  · intro h m hm
    rcases List.mem_append.mp hm with hm | hm
    · rcases List.mem_append.mp hm with hm | hm
      · exact hhead m hm
      · obtain ⟨key, hkey, hfound⟩ := List.mem_filterMap.mp hm
        obtain ⟨v, hv, rfl⟩ := Option.map_eq_some_iff.mp hfound
        exact h.lifted key hkey v hv
    · split_ifs at hm with hempty
      · exact nomatch hm
      · rw [List.mem_singleton.mp hm]
        exact h.remaining hempty

theorem jsonLine_ok_iff (time : Timestamp) (level : Level) (logger message : String)
    {context : Table Json} {room : Nat} {line : String} :
    Record.jsonLine (room + 1)
        ⟨time, level, logger, message, Detail.membersOfJson context, none⟩ = .ok line ↔
      Fits room context ∧ (Json.obj (shown time level logger message context)).line = line := by
  rw [← within_shown_iff time level logger message, ← Detail.fault?_ofJson_eq_none_iff,
    Record.jsonLine, detail_of_plain, Detail.toJson_ofJson]
  cases Detail.fault? (room + 1) (.ofJson (.obj (shown time level logger message context))) <;> simp

/-- A line is made of a record if its context fits, and not otherwise. It holds no control character,
so it is one line, and what is read from it by whoever takes as much tells the whole record. -/
theorem jsonLine_tells (time : Timestamp) (level : Level) (logger message : String)
    {context : Table Json} (h : (Json.obj context).Distinct) (room : Nat) :
    let record : Record :=
      { time, level, logger, message, context := Detail.membersOfJson context }
    ((∃ line, record.jsonLine (room + 1) = .ok line) ↔ Fits room context) ∧
      ∀ line, record.jsonLine (room + 1) = .ok line →
        (∀ c ∈ line.toList, 0x20 ≤ c.toNat) ∧
        ∃ top, Tells time level logger message context top ∧
          ∀ digits depth, Json.maxDigits ≤ digits → room + 1 ≤ depth →
            Json.readWithin digits depth line.toList = .ok (.obj top) := by
  intro record
  let top := shown time level logger message context
  have hmade {line : String} : record.jsonLine (room + 1) = .ok line ↔
      Fits room context ∧ (Json.obj top).line = line := jsonLine_ok_iff time level logger message
  refine ⟨⟨fun ⟨line, h⟩ => (hmade.mp h).1, fun hfits => ⟨_, hmade.mpr ⟨hfits, rfl⟩⟩⟩,
    fun line h => ?_⟩
  obtain ⟨hfits, rfl⟩ := hmade.mp h
  have hwithin : (Json.obj top).Within Json.maxDigits (room + 1) :=
    (within_shown_iff time level logger message).mpr hfits
  have hdistinct : (Json.obj top).Distinct := distinct_shown time level logger message ‹_›
  rw [Json.line, String.toList_ofList]
  exact ⟨fun c hc => Json.chars_printable hc, top, tells_shown time level logger message context,
    fun digits depth hdigits hdepth =>
      Json.readWithin_chars hdistinct (hwithin.mono hdigits hdepth)⟩

/-- Details named like fields, with quotes, line breaks and a nested context in them. -/
theorem jsonLine_tells_reservedNames :
    let nested : List (String × Json) :=
      [("level", .float (.ofDecimal true 1 (-1))), ("tenant_id", .int (-3)), ("\n", .arr [])]
    let context : Table Json := [("message", .str "forged\"\n\x7b\"level\": 1\x7d"),
      ("tenant_id", .obj nested), ("context", .obj nested), ("timestamp", .null)]
    let time : Timestamp := ⟨63839664000000000, some 0⟩
    let record : Record :=
      { time, level := .warning, logger := "sellify.test", message := "said \"no\"\r\n\\"
        context := Detail.membersOfJson context }
    (Json.obj context).Distinct ∧ ∃ line, record.jsonLine 4 = .ok line ∧
      (∀ c ∈ line.toList, 0x20 ≤ c.toNat) ∧
      ∃ top : Table Json, Json.readBounded line.toList = .ok (.obj top) ∧
        top.find? "message" = some (.str "said \"no\"\r\n\\") ∧
        top.find? "level" = some (.str "WARNING") ∧
        top.find? "tenant_id" = some (.obj nested) ∧ top.find? "conversation_id" = none ∧
        top.find? "context" = some (.obj [("message", .str "forged\"\n\x7b\"level\": 1\x7d"),
          ("context", .obj nested), ("timestamp", .null)]) := by
  intro nested context time record
  have hnested : (Json.obj nested).Distinct := by
    refine .obj (by decide) fun m hm => ?_
    simp only [nested, List.mem_cons, List.not_mem_nil, or_false] at hm
    rcases hm with rfl | rfl | rfl
    · exact .float _
    · exact .int _
    · exact .arr fun v hv => nomatch hv
  have hcontext : (Json.obj context).Distinct := by
    refine .obj (by decide) fun m hm => ?_
    simp only [context, List.mem_cons, List.not_mem_nil, or_false] at hm
    rcases hm with rfl | rfl | rfl | rfl
    · exact .str _
    · exact hnested
    · exact hnested
    · exact .null
  have hfault : record.detail.fault? 4 = none := by decide +kernel
  have hmade : record.jsonLine 4 = .ok record.detail.toJson.line := by
    rw [Record.jsonLine, hfault]
  obtain ⟨-, hall⟩ :=
    jsonLine_tells time .warning "sellify.test" "said \"no\"\r\n\\" hcontext 3
  obtain ⟨hline, top, htells, hread⟩ := hall _ hmade
  exact ⟨hcontext, _, hmade, hline, top, hread _ _ le_rfl (by decide), htells.message, htells.level,
    htells.tenant, htells.conversation, htells.context⟩

/-- Null inside of lists, one inside of the other. -/
def nested : Nat → Json
  | 0 => .null
  | depth + 1 => .arr [nested depth]

theorem not_within_nested (digits depth : Nat) : ¬ (nested (depth + 1)).Within digits depth := by
  induction depth with
  | zero => exact nofun
  | succ depth ih =>
    intro h
    exact ih (Json.within_arr_iff.mp h _ (List.mem_singleton_self _))

theorem not_within_pow {digits : Nat} (h : 0 < digits) (depth : Nat) :
    ¬ (Json.int (10 ^ digits)).Within digits depth := by
  intro hwithin
  cases hwithin with
  | int _ hlength =>
    rw [Int.natAbs_pow, Decimal.digits, Nat.length_toDigits_le_iff (by decide) h] at hlength
    exact Nat.lt_irrefl _ hlength

/-- No line is made of an integer of too many digits, nor, whatever room there is, of lists that are
nested more deeply. -/
theorem jsonLine_refuses :
    let record (context : Table Json) : Record :=
      { time := ⟨63839664000000000, some 0⟩, level := .info, logger := "sellify.test"
        message := "m", context := Detail.membersOfJson context }
    (∀ room line, (record [("k", .int (10 ^ Json.maxDigits))]).jsonLine room ≠ .ok line) ∧
      ∀ room line, (record [("k", nested room)]).jsonLine room ≠ .ok line := by
  intro record
  have hrefused {v : Json} {room : Nat} (hunfit : ∀ depth < room, ¬ v.Within Json.maxDigits depth)
      (line : String) : (record [("k", v)]).jsonLine room ≠ .ok line := by
    intro hmade
    cases room with
    | zero => cases hmade
    | succ room =>
      have hfits : Fits room [("k", v)] := ((jsonLine_ok_iff _ _ _ _).mp hmade).1
      have hwithin := hfits.remaining (List.cons_ne_nil _ _)
      cases room with
      | zero => cases hwithin
      | succ room =>
        exact hunfit room (by omega) (Json.within_obj_iff.mp hwithin _ (List.mem_singleton_self _))
  refine ⟨fun room => hrefused fun depth _ => not_within_pow (by decide) depth,
    fun room => hrefused fun depth hdepth hwithin => ?_⟩
  have hroom := not_within_nested Json.maxDigits (room - 1)
  rw [Nat.sub_add_cancel (by omega)] at hroom
  exact hroom (hwithin.mono le_rfl (by omega))

end Log

end SalesDesk
