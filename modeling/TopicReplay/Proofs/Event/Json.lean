import TopicReplay.Event.Json
import TopicReplay.Proofs.Event.Line
import TopicReplay.Proofs.Json.Skipping
import TopicReplay.RemoteOffset

/-!
# Reading back events as JSON

What is written of an event as JSON is read as this event. It does not matter in which order
the members of the object stand, whether those that are `null` are left out, and which members
of other names stand among them. A list of the values in the order of the members is read as
the event, too.

The main statement is `forms_read_back`.
-/

namespace TopicReplay

open Json (Draft Failure Legible WellFormed)
open Json.Reader (IsDigits IsNumeral IsPower MemberFits ReadsAs isDigits_of_all)

namespace Event

/-- The members of an event as JSON. -/
def entries (event : Event) : List (String × Json) :=
  [("topic", .string event.topic),
    ("partition", .int event.partition),
    ("key", .ofOption bytesToJson event.key),
    ("value", .ofOption bytesToJson event.value),
    ("timestamp", .ofOption (fun t => .string t.canonical) event.timestamp),
    ("offset", .int event.offset)]

/-- The names of the members of an event. -/
def entryNames : List String := ["topic", "partition", "key", "value", "timestamp", "offset"]

theorem map_fst_entries (event : Event) : event.entries.map Prod.fst = entryNames := rfl

/-- Whether the members of an object speak of an event: in any order its own, of which some
that are `null` may be missing, and others that have other names. -/
def SpokenBy (event : Event) (members : List (String × Json)) : Prop :=
  ∃ kept others, members.Perm (kept ++ others) ∧ kept.Sublist event.entries ∧
    (∀ entry ∈ event.entries, entry ∉ kept → entry.2 = .null) ∧
    ∀ entry ∈ others, entry.1 ∉ entryNames ∧ WellFormed entry.2

variable {event : Event}

theorem spokenBy_entries (event : Event) : event.SpokenBy event.entries := by
  refine ⟨event.entries, [], ?_, List.Sublist.refl _, ?_, ?_⟩
  · rw [List.append_nil]
  · exact fun entry member missing => absurd member missing
  · exact fun _ member => absurd member List.not_mem_nil

/-! ## Values -/

theorem legible_bytesToJson (bytes : Text.Bytes) (depth : Nat) :
    Legible (depth + 1) (bytesToJson bytes) := by
  apply Legible.array
  intro item member
  rcases List.mem_map.mp member with ⟨byte, -, rfl⟩
  have small := byte.toNat_lt
  apply Legible.int
  · unfold Text.minInt64
    omega
  · unfold Text.maxUInt64
    omega

theorem legible_ofOption_bytes (bytes : Option Text.Bytes) (depth : Nat) :
    Legible (depth + 1) (.ofOption bytesToJson bytes) := by
  cases bytes with
  | none => exact .null
  | some bytes => exact legible_bytesToJson bytes depth

theorem legible_entries (inRange : event.InRange) (depth : Nat) :
    ∀ entry ∈ event.entries, Legible (depth + 1) entry.2 := by
  rcases inRange with ⟨⟨partition_least, partition_most⟩, offset_least, offset_most⟩
  unfold Text.minInt32 at partition_least
  unfold Text.maxInt32 at partition_most
  unfold Text.maxInt64 at offset_most
  simp only [entries, List.forall_mem_cons]
  refine ⟨.string _, .int ?_ ?_, legible_ofOption_bytes _ depth, legible_ofOption_bytes _ depth, ?_,
    .int offset_least ?_, fun _ member => absurd member List.not_mem_nil⟩
  · unfold Text.minInt64
    omega
  · unfold Text.maxUInt64
    omega
  · cases event.timestamp with
    | none => exact .null
    | some t => exact .string _
  · unfold Text.maxUInt64
    omega

/-- A list is read back if its items are. -/
theorem asList_ofJson {α : Type} {encode : α → Json} {read : Draft → Except Failure α}
    (reads : ∀ a, read (Draft.ofJson (encode a)) = .ok a) (values : List α) :
    (Draft.ofJson (.array (values.map encode))).asList read = .ok values := by
  have items : Draft.readItems read (Draft.ofItems (values.map encode)) = .ok values := by
    induction values with
    | nil => rfl
    | cons a values ih =>
        rw [List.map_cons, Draft.ofItems, Draft.readItems, reads, ih]
        rfl
  rw [Draft.ofJson, Draft.asList, items]
  rfl

/-- A value or its absence is read back if a value is and none is `null`. -/
theorem asOption_ofJson {α : Type} {encode : α → Json} {read : Draft → Except Failure α}
    (reads : ∀ a, read (Draft.ofJson (encode a)) = .ok a)
    (present : ∀ a, Draft.ofJson (encode a) ≠ .null) (value : Option α) :
    (Draft.ofJson (.ofOption encode value)).asOption read = .ok value := by
  cases value with
  | none => rfl
  | some a =>
      rw [Json.ofOption]
      unfold Draft.asOption
      split
      case h_1 null => exact absurd null (present a)
      case h_2 =>
        rw [reads]
        rfl

theorem readByte_ofJson (byte : UInt8) : readByte (Draft.ofJson (.int byte.toNat)) = .ok byte := by
  have small := byte.toNat_lt
  have bounds : (0 : Int) ≤ (byte.toNat : Int) ∧ (byte.toNat : Int) ≤ 255 := by omega
  rw [readByte, Draft.ofJson, Draft.asInt, if_pos bounds]
  simp only [Except.map, Int.toNat_natCast, Nat.toUInt8_eq, UInt8.ofNat_toNat]

theorem asOption_bytes (bytes : Option Text.Bytes) :
    (Draft.ofJson (.ofOption bytesToJson bytes)).asOption readBytes = .ok bytes :=
  asOption_ofJson (asList_ofJson readByte_ofJson) (fun _ same => by cases same) bytes

theorem asOption_instant (timestamp : Option Instant) :
    (Draft.ofJson (.ofOption (fun t => .string t.canonical) timestamp)).asOption readInstant =
      .ok timestamp := by
  refine asOption_ofJson (fun t => ?_) (fun _ same => by cases same) timestamp
  have read := Time.read_canonical t
  simp only [readInstant, Draft.ofJson, Draft.asString, bind, Except.bind]
  rw [Instant.canonical, String.toList_ofList, read]
  rfl

theorem asString_ofJson (text : String) : (Draft.ofJson (.string text)).asString = .ok text := rfl

theorem readPartition_ofJson (inRange : event.InRange) :
    readPartition (Draft.ofJson (.int event.partition)) = .ok event.partition :=
  if_pos inRange.1

theorem readOffset_ofJson (inRange : event.InRange) :
    readOffset (Draft.ofJson (.int event.offset)) = .ok event.offset :=
  if_pos inRange.2

/-! ## Members -/

/-- A value if it has one of the names that were read. -/
def ifRead {α : Type} (names : List String) (name : String) (value : α) : Option α :=
  if name ∈ names then some value else none

theorem ifRead_of_notMem {α : Type} {names : List String} {name : String}
    (unread : name ∉ names) (value : α) : ifRead names name value = none :=
  if_neg unread

theorem ifRead_cons_of_ne {α : Type} {names : List String} {name other : String}
    (apart : name ≠ other) (value : α) :
    ifRead (other :: names) name value = ifRead names name value := by
  simp only [ifRead, List.mem_cons, apart, false_or]

/-- What has been read of an event with its members of some names. -/
def Members.of (event : Event) (names : List String) : Members where
  topic := ifRead names "topic" event.topic
  partition := ifRead names "partition" event.partition
  key := ifRead names "key" event.key
  value := ifRead names "value" event.value
  timestamp := ifRead names "timestamp" event.timestamp
  offset := ifRead names "offset" event.offset

/-- A member of the event is read if it was not read before. -/
theorem Members.read_entry (inRange : event.InRange) {names : List String} {entry : String × Json}
    (member : entry ∈ event.entries) (unread : entry.1 ∉ names) :
    (of event names).read entry.1 (Draft.ofJson entry.2) = .ok (of event (entry.1 :: names)) := by
  simp only [entries, List.mem_cons, List.not_mem_nil, or_false] at member
  rcases member with rfl | rfl | rfl | rfl | rfl | rfl
  all_goals
    simp only [Members.read, of, ifRead_of_notMem unread, once, asString_ofJson,
      readPartition_ofJson inRange, readOffset_ofJson inRange, asOption_bytes, asOption_instant]
    simp [Except.map, bind, Except.bind, pure, Except.pure, ifRead]

/-- A member of another name is passed over. -/
theorem Members.read_other {name : String} (unknown : name ∉ entryNames) {draft : Draft}
    (wellFormed : draft.formFault? = none) (event : Event) (names : List String) :
    (of event names).read name draft = .ok (of event (name :: names)) := by
  have skipped : draft.skip = .ok () := by rw [Draft.skip, wellFormed]
  have same : of event (name :: names) = of event names := by
    simp only [entryNames, List.mem_cons, List.not_mem_nil, or_false, not_or] at unknown
    rcases unknown with ⟨topic, partition, key, value, timestamp, offset⟩
    simp only [of, ifRead_cons_of_ne (Ne.symm topic), ifRead_cons_of_ne (Ne.symm partition),
      ifRead_cons_of_ne (Ne.symm key), ifRead_cons_of_ne (Ne.symm value),
      ifRead_cons_of_ne (Ne.symm timestamp), ifRead_cons_of_ne (Ne.symm offset)]
  rw [same]
  unfold Members.read
  split
  case h_7 =>
    rw [skipped]
    rfl
  all_goals exact absurd (by decide) unknown

/-- Whether a member is read as the event needs it: its own members as they are written, and
others without a fault in their form. -/
def Fits (event : Event) (entry : String × Json) (draft : Draft) : Prop :=
  entry ∈ event.entries ∧ draft = Draft.ofJson entry.2 ∨
    entry.1 ∉ entryNames ∧ draft.formFault? = none

/-- Whether two members are not both of one name that an event has. -/
def Apart (entry other : String × Json) : Prop := entry.1 = other.1 → entry.1 ∉ entryNames

theorem Members.readAll_of (inRange : event.InRange) {members : List (String × Json)}
    {drafts : List (Except Json.Fault String × Draft)}
    (fits : List.Forall₂ (MemberFits event.Fits) members drafts) {names : List String}
    (apart : members.Pairwise Apart)
    (unread : ∀ entry ∈ members, entry.1 ∈ entryNames → entry.1 ∉ names) :
    readAll drafts (of event names) =
      .ok (of event ((members.map Prod.fst).reverse ++ names)) := by
  induction fits generalizing names with
  | nil => rfl
  | @cons entry member members drafts first _ ih =>
      rcases member with ⟨key, draft⟩
      rcases first with ⟨rfl, entry_fits⟩
      rcases List.pairwise_cons.mp apart with ⟨entry_apart, others_apart⟩
      rcases List.forall_mem_cons.mp unread with ⟨entry_unread, others_unread⟩
      have step : (of event names).read entry.1 draft = .ok (of event (entry.1 :: names)) := by
        rcases entry_fits with ⟨member, rfl⟩ | ⟨unknown, wellFormed⟩
        · have known : entry.1 ∈ entryNames := List.mem_map_of_mem member
          exact read_entry inRange member (entry_unread known)
        · exact read_other unknown wellFormed event names
      have later := @ih (entry.1 :: names) others_apart (by
        intro other member known again
        rcases List.mem_cons.mp again with same | before
        · exact entry_apart other member same.symm (same ▸ known)
        · exact others_unread other member known before)
      rw [List.map_cons, List.reverse_cons, List.append_assoc, List.singleton_append, ← later]
      simp only [readAll, Draft.readKey, Except.mapError, step, bind, Except.bind]

theorem join_ifRead {α : Type} {names : List String} {name : String} {value : Option α}
    (enough : name ∉ names → value = none) : (ifRead names name value).join = value := by
  by_cases read : name ∈ names
  · rw [ifRead, if_pos read]
    rfl
  · rw [ifRead_of_notMem read, enough read]
    rfl

theorem ofOption_eq_null {α : Type} {encode : α → Json} (present : ∀ a, encode a ≠ .null)
    {value : Option α} (null : Json.ofOption encode value = .null) : value = none := by
  cases value with
  | none => rfl
  | some a => exact absurd null (present a)

/-- The members of an event that are not `null` are enough for it. -/
theorem Members.toEvent?_of {names : List String}
    (enough : ∀ entry ∈ event.entries, entry.1 ∉ names → entry.2 = .null) :
    (of event names).toEvent? = some event := by
  simp only [entries, List.forall_mem_cons] at enough
  rcases enough with ⟨topic, partition, key, value, timestamp, offset, -⟩
  have topic_read : "topic" ∈ names := by
    by_contra missing
    cases topic missing
  have partition_read : "partition" ∈ names := by
    by_contra missing
    cases partition missing
  have offset_read : "offset" ∈ names := by
    by_contra missing
    cases offset missing
  have key_eq := join_ifRead fun missing =>
    ofOption_eq_null (fun _ same => by cases same) (key missing)
  have value_eq := join_ifRead fun missing =>
    ofOption_eq_null (fun _ same => by cases same) (value missing)
  have timestamp_eq := join_ifRead fun missing =>
    ofOption_eq_null (fun _ same => by cases same) (timestamp missing)
  simp only [toEvent?, of, key_eq, value_eq, timestamp_eq]
  simp only [ifRead, if_pos topic_read, if_pos partition_read, if_pos offset_read]
  rfl

/-! ## Events -/

theorem SpokenBy.pairwise_apart {members : List (String × Json)} (spoken : event.SpokenBy members) :
    members.Pairwise Apart := by
  rcases spoken with ⟨kept, others, perm, sublist, -, unknown⟩
  have symmetric : ∀ {entry other}, Apart entry other → Apart other entry :=
    fun apart same => same ▸ apart same.symm
  have distinct : (event.entries.map Prod.fst).Nodup := by
    rw [map_fst_entries]
    decide
  have own : event.entries.Pairwise Apart :=
    (List.pairwise_map.mp distinct).imp fun different same => absurd same different
  refine (perm.pairwise_iff symmetric).mpr (List.pairwise_append.mpr ⟨own.sublist sublist, ?_, ?_⟩)
  · exact List.pairwise_of_forall_mem_list fun entry member _ _ _ => (unknown entry member).1
  · exact fun entry _ other member same => same ▸ (unknown other member).1

/-- Each member of an object that speaks of an event is read as the event needs it. -/
theorem SpokenBy.readsAs (inRange : event.InRange) {members : List (String × Json)}
    (spoken : event.SpokenBy members) {entry : String × Json} (member : entry ∈ members)
    {depth : Nat} (enough : (Json.compact entry.2).length ≤ depth) :
    ReadsAs (depth + 1) entry.2 (event.Fits entry) := by
  rcases spoken with ⟨kept, others, perm, sublist, -, unknown⟩
  rcases List.mem_append.mp (perm.mem_iff.mp member) with own | other
  · have entry_mem := sublist.subset own
    have legible := legible_entries inRange depth entry entry_mem
    exact (Json.Reader.readsBack_of_legible legible).mono fun _ same => .inl ⟨entry_mem, same⟩
  · rcases unknown entry other with ⟨name, wellFormed⟩
    exact (Json.Reader.readsAs_of_wellFormed wellFormed (Nat.le_succ_of_le enough)).mono
      fun _ none => .inr ⟨name, none⟩

theorem ofDraft_object (inRange : event.InRange) {members : List (String × Json)}
    (spoken : event.SpokenBy members) {drafts : List (Except Json.Fault String × Draft)}
    (fits : List.Forall₂ (MemberFits event.Fits) members drafts) :
    ofDraft (.object drafts none) = .ok event := by
  have read := @Members.readAll_of event inRange members drafts fits [] spoken.pairwise_apart
    fun _ _ _ => List.not_mem_nil
  rcases spoken with ⟨kept, others, perm, -, null, -⟩
  have whole : (Members.of event ((members.map Prod.fst).reverse ++ [])).toEvent? = some event := by
    apply Members.toEvent?_of
    intro entry member unread
    apply null entry member
    intro own
    apply unread
    rw [List.append_nil, List.mem_reverse]
    exact List.mem_map_of_mem (perm.mem_iff.mpr (List.mem_append_left _ own))
  have start : Members.of event [] = {} := rfl
  rw [start] at read
  simp only [ofDraft, read, bind, Except.bind, whole]
  rfl

theorem ofText_object (inRange : event.InRange) {members : List (String × Json)}
    (spoken : event.SpokenBy members) :
    ofText (String.ofList (Json.compact (.object members))) = .ok event := by
  rw [ofText, String.toList_ofList]
  apply Json.Reader.readAs_compact
  rw [Json.compact, List.length_append, List.length_cons]
  refine (Json.Reader.readsAs_object fun entry member =>
    spoken.readsAs inRange member (Json.Reader.length_le_compactMembers member)).mono ?_
  rintro _ ⟨drafts, fits, rfl⟩
  exact ofDraft_object inRange spoken fits

/-- A list of the values of an event is read as this event. -/
theorem ofText_array (inRange : event.InRange) :
    ofText (String.ofList (Json.compact (.array (event.entries.map Prod.snd)))) = .ok event := by
  rw [ofText, String.toList_ofList]
  apply Json.Reader.readAs_compact
  rw [Json.compact, List.length_append, List.length_cons]
  have legible : Legible ((Json.compactItems (event.entries.map Prod.snd)).length + 1 + 1)
      (.array (event.entries.map Prod.snd)) := by
    apply Legible.array
    intro item member
    rcases List.mem_map.mp member with ⟨entry, inside, rfl⟩
    exact legible_entries inRange _ entry inside
  apply (Json.Reader.readsBack_of_legible legible).mono
  rintro _ rfl
  simp only [entries, List.map_cons, List.map_nil]
  rw [Draft.ofJson, ofDraft]
  simp only [Draft.ofItems, readItems, nextItem, asString_ofJson, readPartition_ofJson inRange,
    readOffset_ofJson inRange, asOption_bytes, asOption_instant, bind, Except.bind]
  rfl

end Event

namespace RemoteOffset

/-- Whether a known offset has the size that every one has, 64 bits. -/
def InRange (remote : RemoteOffset) : Prop :=
  ∀ n, remote = .known n → Text.minInt64 ≤ n ∧ n ≤ Text.maxInt64

theorem legible_toJson {remote : RemoteOffset} (inRange : remote.InRange) (depth : Nat) :
    Legible (depth + 1) remote.toJson := by
  have absurd_nil : ∀ member ∈ ([] : List (String × Json)), Legible depth member.2 :=
    fun _ member => absurd member List.not_mem_nil
  cases remote with
  | known n =>
      rcases inRange n rfl with ⟨least, most⟩
      have most_unsigned : n ≤ Text.maxUInt64 := by
        unfold Text.maxInt64 at most
        unfold Text.maxUInt64
        omega
      exact .object (List.forall_mem_cons.mpr
        ⟨.string _, List.forall_mem_cons.mpr ⟨.int least most_unsigned, absurd_nil⟩⟩)
  | unknown reason =>
      exact .object (List.forall_mem_cons.mpr
        ⟨.string _, List.forall_mem_cons.mpr ⟨.string _, absurd_nil⟩⟩)
  | notFound => exact .object (List.forall_mem_cons.mpr ⟨.string _, absurd_nil⟩)

/-- What is written of a remote offset is read as the same. -/
theorem ofJson?_compact {remote : RemoteOffset} (inRange : remote.InRange) :
    (Json.Reader.json remote.toJson.compact).toOption.bind ofJson? = some remote := by
  rw [Json.json_compact (legible_toJson inRange 126)]
  exact ofJson?_toJson inRange

end RemoteOffset

/-- What is written of an event as JSON is read as this event, and so is every object that
speaks of it, and the list of its values. What is written of a remote offset is read as the
same, too. -/
theorem forms_read_back {event : Event} (inRange : event.InRange)
    {members : List (String × Json)} (spoken : event.SpokenBy members) {remote : RemoteOffset}
    (fits : remote.InRange) :
    Event.ofText (String.ofList event.toJson.compact) = .ok event ∧
      Event.ofText (String.ofList (Json.object members).compact) = .ok event ∧
      Event.ofText (String.ofList (Json.array (event.entries.map Prod.snd)).compact) = .ok event ∧
      (Json.Reader.json remote.toJson.compact).toOption.bind RemoteOffset.ofJson? = some remote :=
  ⟨Event.ofText_object inRange event.spokenBy_entries, Event.ofText_object inRange spoken,
    Event.ofText_array inRange, RemoteOffset.ofJson?_compact fits⟩

section Stray

/-- An event without a key, of the least partition and the greatest offset, in a leap second. -/
def strayEvent : Event :=
  ⟨"a\nb", -2147483648, 9223372036854775807, none, some [0, 255],
    some ⟨1483228799, 1999999999, by decide⟩⟩

/-- Its members the other way round and without the key, behind a number that is too great for
one and a list of a negative zero. -/
def strayMembers : List (String × Json) :=
  [("size", .real "1e999"), ("size", .array [.real "-0.50"])] ++
    (strayEvent.entries.eraseIdx 2).reverse

theorem strayEvent_spokenBy : strayEvent.SpokenBy strayMembers := by
  refine ⟨strayEvent.entries.eraseIdx 2, _,
    ((List.reverse_perm _).append_left _).trans List.perm_append_comm,
    List.eraseIdx_sublist _ 2, ?_, ?_⟩
  · intro entry member missing
    simp only [Event.entries, List.mem_cons, List.not_mem_nil, or_false] at member
    rcases member with rfl | rfl | rfl | rfl | rfl | rfl
    case inr.inr.inl => rfl
    all_goals exact absurd (by simp [Event.entries, List.eraseIdx]) missing
  · have one : IsDigits ['1'] := isDigits_of_all (List.cons_ne_nil _ _) rfl
    have nines : IsDigits ['9', '9', '9'] := isDigits_of_all (List.cons_ne_nil _ _) rfl
    have places : IsDigits ['5', '0'] := isDigits_of_all (List.cons_ne_nil _ _) rfl
    have great : IsNumeral "1e999".toList :=
      @IsNumeral.unsigned _ [] _ (.run one (by decide)) .absent
        (@IsPower.power 'e' [] _ (.inl rfl) (.inl rfl) nines)
    have negative : IsNumeral "-0.50".toList :=
      @IsNumeral.negative _ _ [] .zero (.point places) .absent
    have inner : ∀ item ∈ [Json.real "-0.50"], WellFormed item :=
      List.forall_mem_cons.mpr ⟨.real negative, fun _ member => absurd member List.not_mem_nil⟩
    simp only [List.forall_mem_cons]
    exact ⟨⟨by decide, .real great⟩, ⟨by decide, .array inner⟩,
      fun _ member => absurd member List.not_mem_nil⟩

/-- The event is found among what it does not know. -/
theorem forms_read_back_stray :
    Event.ofText (String.ofList (Json.object strayMembers).compact) = .ok strayEvent ∧
      (Json.Reader.json (RemoteOffset.known (-9223372036854775808)).toJson.compact).toOption.bind
        RemoteOffset.ofJson? = some (.known (-9223372036854775808)) := by
  have least : (RemoteOffset.known (-9223372036854775808)).InRange := by
    rintro n ⟨⟩
    decide
  rcases forms_read_back (by decide) strayEvent_spokenBy least with ⟨-, read, -, remote⟩
  exact ⟨read, remote⟩

end Stray

end TopicReplay
