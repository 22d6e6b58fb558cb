import BoundSql.Dialect
import BoundSql.Template

/-!
# Rendering templates

Rendering never fails. Values are bound in the order of their placeholders, and a RETURNING clause
follows the values of its record and goes on counting.
-/

namespace BoundSql

def RecordForm.render (dialect : Dialect) (verbatim : Bool) : RecordForm → StateM Binder Parts
  | .insert records => do
    let rows := Record.rows records
    let columns := dialect.columnList verbatim (Record.sharedColumns records)
    return ⟨columns ++ " VALUES " ++ (← dialect.bindRows rows), rows.flatten⟩
  | .valuesTable records tableName => do
    let rows := Record.rows records
    let columns := dialect.columnList verbatim (Record.sharedColumns records)
    let quoted := dialect.quoteName verbatim tableName
    return dialect.valuesTable (← dialect.bindRows rows) quoted columns rows
  | .assignments record omitted => do
    let fields := record.without omitted
    let assignments ← fields.mapM fun (column, value) =>
      return dialect.quoteName verbatim column ++ " = " ++ (← dialect.bind value)
    return ⟨String.intercalate ", " assignments, fields.map Prod.snd⟩

namespace Piece

mutual

def render (dialect : Dialect) (verbatim : Bool) : Piece → StateM Binder Parts
  | .text s => return .ofText s
  | .name s => return .ofText (dialect.quoteName verbatim s)
  | .value v => return ⟨← dialect.bind v, [v]⟩
  | .list vs => return ⟨← dialect.bindRow vs, vs⟩
  | .typed v => dialect.bindTyped v
  | .record form returning =>
    return (← form.render dialect verbatim).withReturning
      (← renderReturning dialect verbatim returning)

def renderReturning (dialect : Dialect) (verbatim : Bool) :
    Returning Piece → StateM Binder (Option Parts)
  | .nothing => return none
  | .all => return some (.ofText "*")
  | .pieces pieces => return some (← renderPieces dialect verbatim pieces)

def renderPieces (dialect : Dialect) (verbatim : Bool) : List Piece → StateM Binder Parts
  | [] => return .ofText ""
  | piece :: rest =>
    return (← render dialect verbatim piece) ++ (← renderPieces dialect verbatim rest)

end

end Piece

structure Renderer where
  dialect : Dialect
  verbatimNames : Bool := false

namespace Renderer

/-- Renders a template with a binder that may already have counted. -/
def renderIn (renderer : Renderer) (template : Template) (verbatim : Bool) :
    StateM Binder Parts :=
  Piece.renderPieces renderer.dialect (verbatim || renderer.verbatimNames) template

def render (renderer : Renderer) (template : Template) (options : RenderOptions) : Parts :=
  ((renderer.renderIn template options.verbatimNames).run (Binder.fresh options)).1

/-- The same renderer, but for names: it quotes them as they are given. -/
def verbatim (renderer : Renderer) : Renderer :=
  { renderer with verbatimNames := true }

end Renderer

end BoundSql
