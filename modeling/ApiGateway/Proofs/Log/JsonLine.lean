import ApiGateway.Json.Record
import ApiGateway.Proofs.Json.OneLine
import ApiGateway.Proofs.Json.Written
import ApiGateway.Proofs.Log.FanOut
import ApiGateway.Proofs.Text.Lines

/-!
# Records as JSON lines

A record in JSON is one line whatever its texts hold, and what is read from that line is the
record. A log of such lines, cut at its line feeds, is the list of its records
(`jsonLines_decode`): no message can split a line or pass for another one.
-/

namespace ApiGateway.Log

/-- The members of an object tell a record: under each name there is one value, and that is the
record's. The level is in lower case; a missing module is unknown, a missing line is 0. -/
structure Record.ToldBy (record : Record) (members : List (String × Json)) : Prop where
  level : Json.valuesOf "level" members =
    [.string (String.ofList (Text.lowerAscii record.level.label.toList))]
  target : Json.valuesOf "target" members = [.string record.target]
  module : Json.valuesOf "module" members = [.string (record.modulePath.getD "unknown")]
  line : Json.valuesOf "line" members = [.ofNat (record.lineNumber.getD 0)]
  message : Json.valuesOf "message" members = [.string record.message]

/-- The number of a record's line, if it has one, is a machine word. -/
def Record.LineInWord (record : Record) : Prop :=
  ∀ line ∈ record.lineNumber, line < Number.wordBound 64

theorem Level.name_eq_lowerAscii_label (level : Level) :
    level.name = String.ofList (Text.lowerAscii level.label.toList) := by
  cases level <;> decide

theorem Record.readable_toJson {record : Record} (inWord : record.LineInWord) :
    record.toJson.Readable := by
  have small : record.lineNumber.getD 0 < Number.wordBound 64 := by
    cases line : record.lineNumber with
    | none => exact Number.wordBound_pos 64
    | some line' => exact inWord line' line
  refine .object ?_
  simp only [List.forall_mem_cons]
  exact ⟨.string _, .ofNat small, .string _, .string _, .string _, .string _, nofun⟩

/-- What is read from the JSON form of a record tells the record. -/
theorem Record.parse?_render {record : Record} (inWord : record.LineInWord) :
    ∃ members, Json.parse? (Format.json.render record) = some (.object members) ∧
      record.ToldBy members := by
  refine ⟨_, Json.parse?_compact (Record.readable_toJson inWord), ?_⟩
  constructor <;> simp [Json.valuesOf, Level.name_eq_lowerAscii_label]

theorem Record.visible_render (record : Record) :
    Text.Visible (Format.json.render record).toList := by
  rw [Format.render, Json.compact, String.toList_ofList]
  exact Json.visible_compactChars record.toJson

/-- Visible lines are found again by cutting at the line feeds. -/
theorem splitOn_lines {lines : List String} (visible : ∀ line ∈ lines, Text.Visible line.toList) :
    Text.splitOn '\n' (String.join (lines.map (· ++ "\n"))).toList =
      lines.map String.toList ++ [[]] :=
  Text.splitOn_join_lines fun line member => (visible line member).not_mem (by decide)

/-- A log in JSON has one line for each record, in their order, and each line tells its record. -/
theorem jsonLines_decode {settings : Settings} (json : settings.format = some .json)
    (records : List Record) (inWords : ∀ record ∈ records, record.LineInWord) :
    Text.splitOn '\n' (String.join (records.map settings.line)).toList =
        records.map (fun record => (Format.json.render record).toList) ++ [[]] ∧
      ∀ record ∈ records, Text.Visible (Format.json.render record).toList ∧
        ∃ members, Json.parse? (Format.json.render record) = some (.object members) ∧
          record.ToldBy members := by
  refine ⟨?_, fun record member =>
    ⟨record.visible_render, Record.parse?_render (inWords record member)⟩⟩
  have lines : records.map settings.line = (records.map Format.json.render).map (· ++ "\n") := by
    rw [List.map_map]
    refine List.map_congr_left fun record _ => ?_
    simp [Settings.line, json]
  have visible : ∀ line ∈ records.map Format.json.render, Text.Visible line.toList := by
    rw [List.forall_mem_map]
    exact fun record _ => record.visible_render
  rw [lines, splitOn_lines visible, List.map_map]
  rfl

/-- A message that would end its line and begin another one, with every kind of escape. -/
def forgery : Record :=
  ⟨.warn, "gate\x00way", some "a\\b\tc", none,
    "x\"\x7d\n\x7b\"level\":\"error\",\"message\":\"\x01\x08\x0c\r", 0⟩

/-- It stays on its line, and it is read with all its characters. -/
theorem jsonLines_decode_forgery :
    Text.splitOn '\n' (String.join ([forgery, forgery].map
        (Settings.line ⟨none, some .json, none⟩))).toList =
      [(Format.json.render forgery).toList, (Format.json.render forgery).toList, []] ∧
    ∃ members, Json.parse? (Format.json.render forgery) = some (.object members) ∧
      Json.valuesOf "level" members = [.string "warn"] ∧
      Json.valuesOf "line" members = [.integer 0] ∧
      Json.valuesOf "message" members = [.string forgery.message] := by
  have inWord : forgery.LineInWord := nofun
  obtain ⟨lines, told⟩ := @jsonLines_decode ⟨none, some .json, none⟩ rfl [forgery, forgery]
    (by simp [inWord])
  obtain ⟨-, members, read, tells⟩ := told forgery List.mem_cons_self
  have lower : String.ofList (Text.lowerAscii forgery.level.label.toList) = "warn" := by decide
  exact ⟨lines, members, read, lower ▸ tells.level, tells.line, tells.message⟩

end ApiGateway.Log
