import SchemaLint.Issue.Document
import SchemaLint.Proofs.Json.RoundTrip
import SchemaLint.Proofs.Text.Utf8

/-!
# Documents of issues

The document of an issue decodes to the JSON object of the issue
(`json?_document`), and the object to the issue (`ofJson?_toJson`), whatever
characters its texts hold. No octet of a document is a control character
(`not_mem_document`).
-/

namespace SchemaLint

namespace Severity

theorem ofName?_name (s : Severity) : ofName? s.name = some s := by
  cases s <;> rfl

end Severity

namespace Category

theorem ofName?_name (c : Category) : ofName? c.name = some c := by
  cases c <;> rfl

end Category

namespace Position

/-- A position whose numbers have at most 64 bits. -/
def Fits (p : Position) : Prop := p.line ≤ Text.maxWord64 ∧ p.column ≤ Text.maxWord64

theorem ofJson?_toJson (p : Position) : ofJson? p.toJson = some p := rfl

theorem readable_toJson {p : Position} (fits : p.Fits) (depth : Nat) :
    p.toJson.Readable (depth + 1) := by
  have distinct : (["line", "column"] : List Text).Nodup := by decide
  refine .object distinct (List.forall_mem_cons.mpr ⟨.number fits.1, ?_⟩)
  exact List.forall_mem_singleton.mpr (.number fits.2)

end Position

namespace Issue

/-- An issue whose positions have numbers of at most 64 bits. -/
def Fits (i : Issue) : Prop := i.first.Fits ∧ i.last.Fits

/-- The JSON value that a document decodes to. -/
def json? (document : List UInt8) : Option Json :=
  (Text.Utf8.decode? document).bind Json.read?

theorem mapM_ofName?_name (categories : List Category) :
    (categories.map fun c => Json.string c.name).mapM
      (fun name => name.text?.bind Category.ofName?) = some categories := by
  induction categories with
  | nil => rfl
  | cons c categories ih =>
    have first : (Json.string c.name).text?.bind Category.ofName? = some c :=
      Category.ofName?_name c
    rw [List.map_cons, List.mapM_cons, first, ih]
    rfl

/-- The object of an issue gives the issue. -/
theorem ofJson?_toJson (i : Issue) : ofJson? i.toJson = some i := by
  have type : i.toJson.get? "type" = some (.string typeName) := rfl
  have checkName : i.toJson.get? "check_name" = some (.string i.checkName) := rfl
  have description : i.toJson.get? "description" = some (.string i.description) := rfl
  have categories : i.toJson.get? "categories" =
      some (.array (i.categories.map fun c => .string c.name)) := rfl
  have severity : i.toJson.get? "severity" = some (.string i.severity.name) := rfl
  have fingerprint : i.toJson.get? "fingerprint" = some (.string i.fingerprint) := rfl
  have location : i.toJson.get? "location" = some i.locationJson := rfl
  have path : i.locationJson.get? "path" = some (.string i.path) := rfl
  have positions : i.locationJson.get? "positions" =
      some (.object [("begin", i.first.toJson), ("end", i.last.toJson)]) := rfl
  have text (t : Text) : (Json.string t).text? = some t := rfl
  have items (items : List Json) : (Json.array items).items? = some items := rfl
  unfold ofJson?
  refine Option.bind_eq_some_iff.mpr ⟨_, type, ?_⟩
  refine Option.bind_eq_some_iff.mpr ⟨_, text typeName, ?_⟩
  refine Option.bind_eq_some_iff.mpr ⟨(), rfl, ?_⟩
  rw [checkName, description, categories, severity, fingerprint, location]
  simp only [text, items, Option.bind_eq_bind, Option.bind_some, path, positions,
    mapM_ofName?_name, Severity.ofName?_name]
  rfl

theorem readable_toJson {i : Issue} (fits : i.Fits) : i.toJson.Readable Json.maxDepth := by
  have categories (depth : Nat) :
      (Json.array (i.categories.map fun c => .string c.name)).Readable (depth + 1) := by
    refine .array fun item held => ?_
    obtain ⟨c, -, rfl⟩ := List.mem_map.mp held
    exact .string c.name
  have positions (depth : Nat) :
      (Json.object [("begin", i.first.toJson), ("end", i.last.toJson)]).Readable (depth + 2) := by
    have distinct : (["begin", "end"] : List Text).Nodup := by decide
    refine .object distinct (List.forall_mem_cons.mpr ⟨Position.readable_toJson fits.1 depth, ?_⟩)
    exact List.forall_mem_singleton.mpr (Position.readable_toJson fits.2 depth)
  have location (depth : Nat) : i.locationJson.Readable (depth + 3) := by
    have distinct : (["path", "positions"] : List Text).Nodup := by decide
    refine .object distinct (List.forall_mem_cons.mpr ⟨.string i.path, ?_⟩)
    exact List.forall_mem_singleton.mpr (positions depth)
  have distinct : (["type", "check_name", "description", "categories", "severity", "fingerprint",
      "location"] : List Text).Nodup := by decide
  show i.toJson.Readable (123 + 4)
  refine .object distinct ?_
  simp only [List.forall_mem_cons]
  exact ⟨.string _, .string _, .string _, categories _, .string _, .string _, location _, nofun⟩

/-- The document of an issue decodes to its object. -/
theorem json?_document {i : Issue} (fits : i.Fits) : json? i.document = some i.toJson := by
  rw [json?, document, Text.Utf8.decode?_utf8, Option.bind_some, (readable_toJson fits).read?_compact]

theorem document_ne_nil {i : Issue} (fits : i.Fits) : i.document ≠ [] := by
  intro empty
  have decoded := json?_document fits
  rw [empty] at decoded
  cases decoded

/-- No control character stands in a document. -/
theorem not_mem_document {i : Issue} (fits : i.Fits) {b : UInt8} (control : b.toNat < 32) :
    b ∉ i.document := by
  intro held
  obtain ⟨c, present, same⟩ := Text.exists_mem_of_mem_utf8 held (by omega)
  have := (readable_toJson fits).clean c present
  omega

end Issue

end SchemaLint
