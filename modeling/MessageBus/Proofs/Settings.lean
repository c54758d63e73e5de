import MessageBus.Proofs.Json.Shapes
import MessageBus.Settings.Text

/-!
# Settings that survive their text

Settings are read from their own text as they were written. The text may also have lost fields, of
the settings, of their connection and of their isolation, and have the others in any order: it is
then read as the same settings with the defaults in the fields that are gone.
-/

namespace MessageBus

open Json (Shape Fields Members)

namespace Json.Fields

def valueOf (defaults : Json) (found : Members) (name : String) : Json :=
  ((found.get? name).or (defaults.member? name)).getD .null

theorem complete_withFallbacks {defaults : Json} {fs : List (String × Shape)}
    (all : ∀ f ∈ fs, (defaults.member? f.1).isSome) (found : Members) :
    (withFallbacks defaults fs).complete found =
      .ok (fs.map fun f => (f.1, valueOf defaults found f.1)) := by
  induction fs with
  | nil => rfl
  | cons f fs ih =>
    obtain ⟨name, shape⟩ := f
    obtain ⟨here, others⟩ := List.forall_mem_cons.mp all
    obtain ⟨v, fallback⟩ := Option.isSome_iff_exists.mp here
    rw [withFallbacks, List.map_cons, fallback]
    cases h : found.get? name <;> simp only [complete, valueOf, h, fallback, ih others] <;> rfl

theorem valueOf_pick (defaults : Json) (members : Members) (names : List String) (name : String) :
    valueOf defaults (members.pick names) name =
      if name ∈ names then valueOf defaults members name else valueOf defaults [] name := by
  rw [valueOf, Members.get?_pick]
  split <;> rfl

end Json.Fields

def Json.pick (names : List String) : Json → Json
  | .object members => .object (Members.pick names members)
  | v => v

def Json.adjust (name : String) (f : Json → Json) : Json → Json
  | .object members => .object (members.map fun m => if m.1 = name then (m.1, f m.2) else m)
  | v => v

/-- The names of the fields that are left in a text, in the order in which they stand there: those
of the settings, of their connection and of their isolation. -/
structure Settings.Remaining where
  settings : List String
  connection : List String
  isolation : List String
  settings_distinct : settings.Nodup
  connection_distinct : connection.Nodup
  isolation_distinct : isolation.Nodup

def Connection.keep (c : Connection) (names : List String) : Connection where
  connectionString := if "connection_string" ∈ names then c.connectionString else none
  hostNamespace := if "fully_qualified_namespace" ∈ names then c.hostNamespace else none
  protocol := if "transport_type" ∈ names then c.protocol else .amqp

def Isolation.keep (i : Isolation) (names : List String) : Isolation where
  behavior := if "behavior" ∈ names then i.behavior else .handleAll
  key := if "isolation_key" ∈ names then i.key else none
  applicationName := if "application_name" ∈ names then i.applicationName else none
  apps := if "isolation_apps" ∈ names then i.apps else []

namespace Settings

def toJsonWith (remaining : Remaining) (s : Settings) : Json :=
  s.toJson.adjust "connection" (Json.pick remaining.connection)
    |>.adjust "isolation" (Json.pick remaining.isolation)
    |>.pick remaining.settings

/-- The settings with the remaining fields. The others have their defaults. -/
def keep (remaining : Remaining) (s : Settings) : Settings where
  connection :=
    if "connection" ∈ remaining.settings then s.connection.map (·.keep remaining.connection)
    else none
  isolation :=
    if "isolation" ∈ remaining.settings then s.isolation.keep remaining.isolation else {}
  maxBatchSize :=
    if "max_batch_size_in_bytes" ∈ remaining.settings then s.maxBatchSize else none
  pageSize := if "schedule_page_size" ∈ remaining.settings then s.pageSize else 100

end Settings

theorem Json.head?_chars_object (members : Members) :
    (Json.object members).chars.head? ≠ some 'n' := by
  rw [chars_object]
  simp

theorem Json.head?_chars_nat (n : Nat) : (Json.nat n).chars.head? ≠ some 'n' := by
  obtain ⟨c, more, first, digit⟩ := Reader.digitChars_begin n
  have written : (Json.nat n).chars = Number.digitChars n := rfl
  rw [written, first]
  intro null
  obtain rfl := Option.some.inj null
  cases digit

section Reads

variable {depth : Nat}

theorem reads_optionalText (s : Option String) :
    (Shape.optional .text).Reads depth (.optional s) (.optional s) := by
  cases s with
  | none => exact .null .text
  | some s => exact .optional (.text s) (by simp [Json.optional, Json.chars, Json.quotedChars])

theorem reads_texts (texts : List String) :
    (Shape.list .text).Reads (depth + 1) (.list (texts.map .text)) (.list (texts.map .text)) :=
  .list <| List.forall₂_map_left_iff.mpr <| List.forall₂_map_right_iff.mpr <|
    List.forall₂_same.mpr fun s _ => .text s

theorem reads_word (n : UInt64) : Shape.unsigned64.Reads depth (.nat n.toNat) (.nat n.toNat) :=
  .nat (Nat.zero_le _) (Nat.le_of_lt_succ n.toNat_lt) (by decide)

theorem reads_picked {shape : Shape} {defaults : Json} {fs : List (String × Shape)}
    (record : shape = .record (.withFallbacks defaults fs)) {v w : Json} {vs ws : Members}
    (object : v = .object vs)
    (each : List.Forall₂ (Fields.Reads depth (.withFallbacks defaults fs)) vs ws)
    (all : ∀ f ∈ fs, (defaults.member? f.1).isSome) {names : List String} (distinct : names.Nodup)
    (result : w = .object (fs.map fun f => (f.1, if f.1 ∈ names then Fields.valueOf defaults ws f.1
      else Fields.valueOf defaults [] f.1))) :
    shape.Reads (depth + 1) (v.pick names) w := by
  simp only [← Fields.valueOf_pick] at result
  rw [record, object, result]
  exact .record (Members.forall₂_pick each (fun _ _ h => h.1) names)
    ((Members.names_pick_sublist names vs).nodup distinct) (Fields.complete_withFallbacks all _)

theorem Connection.reads (c : Connection) {names : List String} (distinct : names.Nodup) :
    Connection.shape.Reads (depth + 1) (c.toJson.pick names) (c.keep names).toJson := by
  refine reads_picked rfl rfl
    (.cons (.member rfl (reads_optionalText c.connectionString)) <|
      .cons (.member rfl (reads_optionalText c.hostNamespace)) <|
      .cons (.member rfl (.variant (by cases c.protocol <;> decide))) .nil)
    (by decide) distinct ?_
  simp only [toJson, keep, apply_ite Json.optional, apply_ite TransportProtocol.name,
    apply_ite Json.text]
  rfl

theorem Isolation.reads (i : Isolation) {names : List String} (distinct : names.Nodup) :
    Isolation.shape.Reads (depth + 2) (i.toJson.pick names) (i.keep names).toJson := by
  refine reads_picked rfl rfl
    (.cons (.member rfl (.variant (by cases i.behavior <;> decide))) <|
      .cons (.member rfl (reads_optionalText i.key)) <|
      .cons (.member rfl (reads_optionalText i.applicationName)) <|
      .cons (.member rfl (reads_texts i.apps)) .nil)
    (by decide) distinct ?_
  simp only [toJson, keep, apply_ite Json.optional, apply_ite IsolationBehavior.name,
    apply_ite Json.text, apply_ite (List.map Json.text), apply_ite Json.list]
  rfl

theorem Settings.toJsonWith_eq (s : Settings) (remaining : Remaining) :
    s.toJsonWith remaining =
      (Json.object [
        ("connection",
          (s.connection.map fun c => c.toJson.pick remaining.connection).getD .null),
        ("isolation", s.isolation.toJson.pick remaining.isolation),
        ("max_batch_size_in_bytes", (s.maxBatchSize.map fun n => .nat n.toNat).getD .null),
        ("schedule_page_size", .nat s.pageSize.toNat)]).pick remaining.settings := by
  obtain ⟨connection, isolation, maxBatchSize, pageSize⟩ := s
  cases connection <;> rfl

example : ({ maxBatchSize := some 7 } : Settings).toJsonWith
      ⟨["schedule_page_size", "isolation"], [], ["isolation_apps"],
        by decide, by decide, by decide⟩ =
    .object [
      ("schedule_page_size", .nat 100),
      ("isolation", .object [("isolation_apps", .list [])])] := rfl

theorem Settings.reads (s : Settings) (remaining : Remaining) :
    Settings.shape.Reads (depth + 3) (s.toJsonWith remaining) (s.keep remaining).toJson := by
  have connection : (Shape.optional Connection.shape).Reads (depth + 2)
      ((s.connection.map fun c => c.toJson.pick remaining.connection).getD .null)
      ((s.connection.map fun c => (c.keep remaining.connection).toJson).getD .null) := by
    cases s.connection with
    | none => exact .null _
    | some c =>
      exact .optional (c.reads remaining.connection_distinct) (Json.head?_chars_object _)
  have batch : (Shape.optional .unsigned64).Reads (depth + 2)
      ((s.maxBatchSize.map fun n => Json.nat n.toNat).getD .null)
      ((s.maxBatchSize.map fun n => Json.nat n.toNat).getD .null) := by
    cases s.maxBatchSize with
    | none => exact .null _
    | some n => exact .optional (reads_word n) (Json.head?_chars_nat _)
  rw [toJsonWith_eq]
  refine reads_picked rfl rfl
    (.cons (.member rfl connection) <|
      .cons (.member rfl (s.isolation.reads remaining.isolation_distinct)) <|
      .cons (.member rfl batch) <|
      .cons (.member rfl (reads_word s.pageSize)) .nil)
    (by decide) remaining.settings_distinct ?_
  -- what is left are the values of the fields, one by one
  simp only [toJson, keep, List.map_cons, List.map_nil, Json.object.injEq, List.cons.injEq,
    Prod.mk.injEq, true_and, and_true]
  refine ⟨?_, ?_, ?_, ?_⟩ <;> split_ifs
  · cases s.connection <;> rfl
  all_goals rfl

end Reads

@[simp] theorem Json.text?_optional (s : Option String) : (Json.optional s).text? = s := by
  cases s <;> rfl

theorem Connection.ofJson_toJson (c : Connection) : Connection.ofJson c.toJson = c := by
  obtain ⟨connectionString, hostNamespace, protocol⟩ := c
  refine congr (congr (congrArg Connection.mk ?_) ?_) ?_
  · exact Json.text?_optional connectionString
  · exact Json.text?_optional hostNamespace
  · cases protocol <;> rfl

theorem Isolation.ofJson_toJson (i : Isolation) : Isolation.ofJson i.toJson = i := by
  obtain ⟨behavior, key, applicationName, apps⟩ := i
  refine congr (congr (congr (congrArg Isolation.mk ?_) ?_) ?_) ?_
  · cases behavior <;> rfl
  · exact Json.text?_optional key
  · exact Json.text?_optional applicationName
  · have texts : (apps.map Json.text).filterMap Json.text? = apps := by
      rw [List.filterMap_map]
      exact List.filterMap_some
    exact texts

namespace Settings

theorem ofJson_toJson (s : Settings) : Settings.ofJson s.toJson = s := by
  obtain ⟨connection, isolation, maxBatchSize, pageSize⟩ := s
  refine congr (congr (congr (congrArg Settings.mk ?_) ?_) ?_) ?_
  · cases connection with
    | none => rfl
    | some c => exact congrArg some c.ofJson_toJson
  · exact isolation.ofJson_toJson
  · cases maxBatchSize with
    | none => rfl
    | some n => exact congrArg some UInt64.ofNat_toNat
  · exact UInt64.ofNat_toNat

def Remaining.all : Remaining where
  settings := ["connection", "isolation", "max_batch_size_in_bytes", "schedule_page_size"]
  connection := ["connection_string", "fully_qualified_namespace", "transport_type"]
  isolation := ["behavior", "isolation_key", "application_name", "isolation_apps"]
  settings_distinct := by decide
  connection_distinct := by decide
  isolation_distinct := by decide

theorem toJsonWith_all (s : Settings) : s.toJsonWith .all = s.toJson := by
  obtain ⟨connection, isolation, maxBatchSize, pageSize⟩ := s
  cases connection <;> rfl

theorem keep_all (s : Settings) : s.keep .all = s := by
  obtain ⟨connection, isolation, maxBatchSize, pageSize⟩ := s
  cases connection <;> rfl

theorem parse_toJsonWith (s : Settings) (remaining : Remaining) :
    parse (s.toJsonWith remaining).render = .ok (s.keep remaining) := by
  have read : Settings.shape.Reads Json.Reader.depthLimit _ _ := s.reads remaining
  rw [parse, read.parse]
  exact congrArg Except.ok (ofJson_toJson _)

theorem parse_render (s : Settings) : parse s.render = .ok s := by
  have read := s.parse_toJsonWith .all
  rwa [toJsonWith_all, keep_all] at read

/-- Settings come back from their text, and from what is left of it when fields are gone, however
those that remain are ordered: then with the default in each field that is gone. -/
theorem parse_written (s : Settings) :
    parse s.render = .ok s ∧
      ∀ remaining : Remaining,
        parse (s.toJsonWith remaining).render = .ok (s.keep remaining) :=
  ⟨s.parse_render, s.parse_toJsonWith⟩

end Settings

end MessageBus
