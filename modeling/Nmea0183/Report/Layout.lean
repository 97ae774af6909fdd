import Nmea0183.Registry
import Nmea0183.Report.Check

/-!
# Layout of models

What a person is shown of the models that a module declares: the sentence of each
in one line, and its fields with their kinds.  The models come in the order of
their names, and of several with one name only the last counts.  A model without
a usable schema or message code ends the report where it stands.
-/

namespace Nmea0183

namespace Report

/-- The width that the name and the kind of a field fill together. -/
def fieldWidth : Nat := 54

/-- A title between two bars. -/
def titled (bar : Char) (width : Nat) (title : String) : String :=
  let side := String.ofList (List.replicate width bar)
  side ++ " " ++ title ++ " " ++ side

/-- The line on a field: its place and name, dots, and its kind. -/
def fieldLine (s : FieldSchema) (index : Nat) : String :=
  let name := s!"{index + 1}. {s.name}"
  let kind := s.describe
  let dots := max 1 (fieldWidth - (name.length + kind.length))
  "        " ++ name ++ String.ofList (List.replicate dots '.') ++ kind

/-- Text that is printed before an operation succeeds or fails. -/
structure Printed where
  lines : List String
  outcome : Except Fault Unit

/-- The lines on a model. -/
def model (r : Registry) (m : Model) : Printed :=
  match r.codeFor? (.model m) with
  | .error f => ⟨[], .error f⟩
  | .ok code =>
    let title := match code with
      | some c => c.text ++ ": " ++ m.name
      | none => m.name
    let heading := titled '=' 19 title
    match m.schema with
    | .error f => ⟨[heading], .error (.schema f)⟩
    | .ok schemas =>
      let header := "$TT" ++ ((code.map Token.text).getD "MMM")
      let layout := ",".intercalate (header :: schemas.map FieldSchema.name)
      ⟨[heading, "Layout: " ++ layout ++ "*HH", "", titled '-' 27 "Fields"]
        ++ schemas.zipIdx.map (fun (s, i) => fieldLine s i) ++ [""], .ok ()⟩

/-- The lines on models, up to the first that fails. -/
def models (r : Registry) : List Model → Printed
  | [] => ⟨[], .ok ()⟩
  | m :: rest =>
    match model r m with
    | ⟨lines, .error f⟩ => ⟨lines, .error f⟩
    | ⟨lines, .ok ()⟩ =>
      let others := models r rest
      ⟨lines ++ others.lines, others.outcome⟩

/-- The models of a module among the types that it names, in the order of their names. -/
def declared (module : String) (types : List PayloadType) : List Model :=
  let last := types.foldl
    (fun kept t => kept.filter (fun k => k.name != t.name) ++ [t]) ([] : List PayloadType)
  let own := last.filterMap fun t => match t with
    | .model m => if m.module == module then some m else none
    | _ => none
  own.mergeSort fun a b => decide (a.name ≤ b.name)

/-- The report on the module of a file. -/
def module (r : Registry) (file name : String) (types : List PayloadType) : Printed :=
  match declared name types with
  | [] => ⟨["No SentenceMessage classes found in " ++ file], .ok ()⟩
  | found =>
    let count := found.length
    let loaded := s!"{count} message" ++ (if count = 1 then "" else "s") ++ " loaded."
    let body := models r found
    ⟨[titled '|' 7 "nmeacomm: NMEA 0183 Sentence Codec", loaded, ""] ++ body.lines, body.outcome⟩

end Report

end Nmea0183
