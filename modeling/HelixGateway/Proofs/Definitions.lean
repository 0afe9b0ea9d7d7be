import HelixGateway.Definitions
import HelixGateway.Proofs.Text.Lines
import HelixGateway.Proofs.Text.Utf8

/-!
# What a definition file says

A schema and a list of queries depend on the lines of their text alone. The newlines of a file are made line feeds when it
is loaded, which leaves its lines as they are. So a file says what the text that its bytes encode says, and it is refused if
they encode none.

Main statements: `Schema.parse_unifyNewlines`, `Query.parse_unifyNewlines`, `Disk.reads_loaded`.
-/

namespace HelixGateway

open Text (Bytes unifyNewlines)

/-- A schema is the same however its lines end. -/
theorem Schema.parse_unifyNewlines (s : List Char) : parse (unifyNewlines s) = parse s := by
  rw [parse, parse, Text.lines_unifyNewlines]

/-- Queries are the same however their lines end. -/
theorem Query.parse_unifyNewlines (s : List Char) : parse (unifyNewlines s) = parse s := by
  rw [parse, parse, Text.lines_unifyNewlines]

namespace Disk

/-- Loading the file with a path is reading its bytes: they encode a text and `read` gives the value loaded, or else the
file is refused by its path. -/
structure Reads {α : Type} (read : List Char → α) (path : String) (content : Bytes) (loaded : Loaded α) : Prop where
  value_iff : ∀ v, loaded = .ok (.ok v) ↔ ∃ s, content = Text.Utf8.encode s ∧ v = read s
  refusal_iff : (∃ e, loaded = .ok (.error e)) ↔ ¬∃ s, content = Text.Utf8.encode s
  path_eq : ∀ e, loaded = .ok (.error e) → e.path = (Path.ofText path).text

variable {d : Disk} {path : String} {content : Bytes}

/-- A path at which something is found is not too long. -/
theorem isTooLong_of_find? {p : Path} {entry : DiskEntry} (h : d.find? p = some entry) : d.isTooLong p = false := by
  cases hl : d.isTooLong p with
  | false => rfl
  | true =>
    rw [find?, if_pos hl] at h
    cases h

/-- The text of a file, or the refusal of what it holds. -/
theorem loadText_file (h : d.find? (.ofText path) = some (.file content)) :
    d.loadText path =
      match Text.Utf8.decode content with
      | .error e => .ok (.error ⟨(Path.ofText path).text, .undecodable e⟩)
      | .ok s => .ok (.ok (unifyNewlines s)) := by
  simp only [loadText, isTooLong_of_find? h, h]
  rfl

/-- What does not tell newlines from line feeds is read from a file as from its text. -/
theorem reads_loaded {α : Type} {read : List Char → α} (hr : ∀ s, read (unifyNewlines s) = read s)
    (h : d.find? (.ofText path) = some (.file content)) : Reads read path content (Loaded.map read (d.loadText path)) := by
  rw [loadText_file h]
  cases hd : Text.Utf8.decode content with
  | ok t =>
    have ht : content = Text.Utf8.encode t := Text.Utf8.decode_eq_ok_iff.1 hd
    have hl : Loaded.map read (.ok (.ok (unifyNewlines t))) = .ok (.ok (read t)) := by
      rw [← hr t]
      rfl
    refine ⟨fun v => ?_, ?_, ?_⟩
    · rw [hl]
      constructor
      · rintro ⟨⟩
        exact ⟨t, ht, rfl⟩
      · -- bytes encode one text at most
        rintro ⟨s, hs, rfl⟩
        rw [Text.Utf8.decode_eq_ok_iff.2 hs] at hd
        cases hd
        rfl
    · refine iff_of_false ?_ fun hn => hn ⟨t, ht⟩
      rintro ⟨e, he⟩
      cases he
    · intro e he
      cases he
  | error fault =>
    have hn : ¬∃ s, content = Text.Utf8.encode s := by
      rintro ⟨s, hs⟩
      rw [Text.Utf8.decode_eq_ok_iff.2 hs] at hd
      cases hd
    refine ⟨fun v => ?_, iff_of_true ⟨_, rfl⟩ hn, ?_⟩
    · refine iff_of_false nofun ?_
      rintro ⟨s, hs, -⟩
      exact hn ⟨s, hs⟩
    · rintro e ⟨⟩
      rfl

/-- The file at a path is loaded as the schema and as the queries of the text that its bytes encode, taken as it is; it is
refused, by its path, if they encode none. -/
theorem loaded_definitions_of_file (h : d.find? (.ofText path) = some (.file content)) :
    Reads Schema.parse path content (d.loadSchema path) ∧ Reads Query.parse path content (d.loadQueries path) :=
  ⟨reads_loaded Schema.parse_unifyNewlines h, reads_loaded Query.parse_unifyNewlines h⟩

/-- A schema whose lines end in a carriage return and a line feed, but for the last one. -/
def dosText : List Char := "N::User \x7b\r\n  name: String\r\n\x7d\r".toList

/-- A disk with that schema, and a file that is no text. -/
def dosDisk : Disk where
  here := ["srv"]
  files := [(["srv", "schema.hx"], Text.Utf8.encode dosText), (["srv", "queries.hx"], [0x51, 0xC0, 0x80])]
  directories := []

/-- A file whose lines end in two characters, and one with bytes that are no text. -/
theorem loaded_definitions_of_dosDisk :
    dosDisk.find? (.ofText "./schema.hx") = some (.file (Text.Utf8.encode dosText)) ∧
      dosDisk.loadSchema "./schema.hx" = .ok (.ok (Schema.parse dosText)) ∧
      dosDisk.find? (.ofText "/srv//queries.hx") = some (.file [0x51, 0xC0, 0x80]) ∧
      ∀ e, dosDisk.loadQueries "/srv//queries.hx" = .ok (.error e) → e.path = "/srv/queries.hx" := by
  have hs : dosDisk.find? (.ofText "./schema.hx") = some (.file (Text.Utf8.encode dosText)) := by decide
  have hq : dosDisk.find? (.ofText "/srv//queries.hx") = some (.file [0x51, 0xC0, 0x80]) := by decide
  refine ⟨hs, ((loaded_definitions_of_file hs).1.value_iff _).2 ⟨_, rfl, rfl⟩, hq, fun e he => ?_⟩
  rw [(loaded_definitions_of_file hq).2.path_eq e he]
  decide

end Disk

end HelixGateway
