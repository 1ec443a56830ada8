import AbapPerf.Report

/-! The declared fields of the service's data. A code unit of a request holds optional texts for
its names and its code, optional whole numbers for its start and end lines, and any value for its
implementations. An answer item holds optional texts for the names and the code and a list of
findings; a finding holds optional texts for the names, whole numbers for its lines, and texts for
the rest. Written out as a record, each field stands under its key, in the declared order. The
analysis hands its report over as such a record, with the keys that the answer declares. -/
namespace AbapPerf

namespace Value

def ofText (s : Option String) : Value :=
  (s.map .str).getD .null

def ofWhole (n : Option Int) : Value :=
  (n.map .int).getD .null

end Value

/-- A code unit whose fields passed the request schema. -/
structure CodeUnit where
  program : Option String := none
  includeName : Option String := none
  unitType : Option String := none
  block : Option String := none
  implementations : Value := .null
  startLine : Option Int := none
  endLine : Option Int := none
  code : Option String := none

def CodeUnit.value (u : CodeUnit) : Field → Value
  | .program => .ofText u.program
  | .includeName => .ofText u.includeName
  | .unitType => .ofText u.unitType
  | .block => .ofText u.block
  | .implementations => u.implementations
  | .startLine => .ofWhole u.startLine
  | .endLine => .ofWhole u.endLine
  | .code => .ofText u.code

namespace Response

structure Finding where
  progName : Option String
  inclName : Option String
  types : Option String
  blockname : Option String
  startingLine : Int
  endingLine : Int
  issuesType : String
  severity : String
  message : String
  suggestion : String
  snippet : String

structure Item where
  pgmName : Option String
  incName : Option String
  unitType : Option String
  name : Option String
  code : Option String
  findings : List Finding

def Finding.dump (f : Finding) : Value :=
  .record [("prog_name", .ofText f.progName), ("incl_name", .ofText f.inclName),
    ("types", .ofText f.types), ("blockname", .ofText f.blockname),
    ("starting_line", .int f.startingLine), ("ending_line", .int f.endingLine),
    ("issues_type", .str f.issuesType), ("severity", .str f.severity),
    ("message", .str f.message), ("suggestion", .str f.suggestion), ("snippet", .str f.snippet)]

/-- An answer item written out, each field under its key. -/
def Item.dump (r : Item) : Value :=
  .record [("pgm_name", .ofText r.pgmName), ("inc_name", .ofText r.incName),
    ("type", .ofText r.unitType), ("name", .ofText r.name),
    ("code", .ofText r.code), ("findings", .list (r.findings.map Finding.dump))]

end Response

def Issue.toRecord (i : Issue) : Value :=
  .record [("prog_name", i.program), ("incl_name", i.includeName), ("types", i.unitType),
    ("blockname", i.block), ("starting_line", i.line), ("ending_line", i.line),
    ("issues_type", .str Issue.category), ("severity", .str Issue.severity),
    ("message", .str i.message), ("suggestion", .str i.rule.suggestion),
    ("snippet", .str i.snippet)]

/-- The record the analysis returns for a report. -/
def Report.toRecord (r : Report) : Value :=
  .record [("pgm_name", r.program), ("inc_name", r.includeName), ("type", r.unitType),
    ("name", r.block), ("code", .str r.code), ("findings", .list (r.issues.map Issue.toRecord))]

end AbapPerf
