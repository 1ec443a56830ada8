import AbapPerf.Schema

/-! The service's two handlers and the requests that reach them. A handler receives code units
that already passed the request schema. It writes each unit out as a record, analyses that
record, and builds an answer item from the record of the report. The single handler answers a
list of one item; the list handler answers one item per unit, in order.

What the web framework does around the handlers is a parameter, `Framework`: checking a request
against the schema, writing a unit out, and building an answer item. The handlers rely on two
laws of it, `Framework.Lawful`: a unit is written out with each declared field under its key, and
an item is built back from the record of its own fields. A request whose data fails the schema
fails as a whole, with the locations the framework names. -/
namespace AbapPerf

namespace Service

/-- What the service takes from its web framework: checking a request as one code unit or as a
list of them (the units, or the failing locations), writing a unit out as a record, and building an
answer item from a record. -/
structure Framework where
  unit : Value → Except Fault (Except (List String) CodeUnit)
  units : Value → Except Fault (Except (List String) (List CodeUnit))
  dump : CodeUnit → Value
  item : Value → Except (List String) Response.Item

/-- The laws of a framework that the handlers rely on: a unit is written out as a record with each
declared field under its key, and an item is built back from the record of its own fields. -/
structure Framework.Lawful (F : Framework) : Prop where
  dump_fields : ∀ u, ∃ fields, F.dump u = .record fields ∧
    ∀ f, Value.field? fields f.key = some (u.value f)
  item_dump : ∀ it : Response.Item, F.item it.dump = .ok it

variable (F : Framework)

/-- The answer item for one unit: the analysis of the unit's record, built into an item. -/
def respond (u : CodeUnit) : Except Fault Response.Item := do
  let r ← Report.analyze (F.dump u)
  match F.item r.toRecord with
  | .ok it => pure it
  | .error locations => throw (.rejected locations)

def remediateSingle (u : CodeUnit) : Except Fault (List Response.Item) := do
  pure [← respond F u]

def remediateArray (units : List CodeUnit) : Except Fault (List Response.Item) :=
  units.mapM (respond F)

/-- A request for one unit: the unit is checked, then handled. -/
def remediate (item : Value) : Except Fault (List Response.Item) := do
  match ← F.unit item with
  | .error locations => throw (.rejected locations)
  | .ok u => remediateSingle F u

/-- A request for a list of units: all of them are checked before any is handled. -/
def remediateAll (payload : Value) : Except Fault (List Response.Item) := do
  match ← F.units payload with
  | .error locations => throw (.rejected locations)
  | .ok units => remediateArray F units

/-- The sample request that the service documents: one program with nested loops, a SELECT in a
loop and a FOR ALL ENTRIES clause. -/
def sampleRequest : Value :=
  .list [.record [("pgm_name", .str "Z_DEMO"), ("inc_name", .str "Z_INC"), ("type", .str "PROG"),
    ("name", .str "MAIN"), ("class_implementations", .list []), ("start_line", .int 1),
    ("end_line", .int 999),
    ("code", .str ("LOOP AT lt_tab INTO ls_tab.\n" ++
      "  SELECT * FROM mara INTO TABLE lt_mara WHERE matnr = ls_tab-matnr.\n" ++
      "  LOOP AT lt_inner INTO ls_inner.\n" ++
      "    WHILE sy-index < 10.\n" ++
      "      DO 5 TIMES.\n" ++
      "      ENDDO.\n" ++
      "    ENDWHILE.\n" ++
      "  ENDLOOP.\n" ++
      "ENDLOOP.\n" ++
      "SELECT * FROM mara FOR ALL ENTRIES IN lt_tab WHERE matnr = lt_tab-matnr."))]]

end Service

end AbapPerf
