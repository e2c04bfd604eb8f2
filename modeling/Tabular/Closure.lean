import Tabular.Expr.Render
import Tabular.Names
import Tabular.Text.Character

namespace Tabular

def Column.stem : Column → String
  | .symbol name | .string name => Text.stem name
  | .position n => "col" ++ n.repr
  | .dynamic _ => "col"

namespace Expr

mutual

def mapColumns (f : Column → Expr) : Expr → Expr
  | literal v => literal v
  | ident name => ident name
  | quote name => quote name
  | interp target => interp (mapColumns f target)
  | column c => f c
  | call func args => call (mapColumns f func) (mapColumnsItems f args)
  | keyword name value => keyword name (mapColumns f value)
  | index target indices => index (mapColumns f target) (mapColumnsItems f indices)
  | field target name => field (mapColumns f target) name
  | assign sink value => assign (mapColumns f sink) (mapColumns f value)
  | flagged flags inner => flagged flags (mapColumns f inner)
  | block lines => block (mapColumnsItems f lines)
  | tuple items => tuple (mapColumnsItems f items)
  | namedTuple fields => namedTuple (mapColumnsFields f fields)
  | vector items => vector (mapColumnsItems f items)
  | lambda params body => lambda params (mapColumns f body)
  | pair left right => pair (mapColumns f left) (mapColumns f right)

def mapColumnsItems (f : Column → Expr) : List Expr → List Expr
  | [] => []
  | e :: es => mapColumns f e :: mapColumnsItems f es

def mapColumnsFields (f : Column → Expr) : List (String × Expr) → List (String × Expr)
  | [] => []
  | (name, e) :: fields => (name, mapColumns f e) :: mapColumnsFields f fields

end

mutual

def putColumns (bind : String → Option Column) : Expr → Expr
  | literal v => literal v
  | ident name => match bind name with
    | some c => column c
    | none => ident name
  | quote name => quote name
  | interp target => interp (putColumns bind target)
  | column c => column c
  | call func args => call (putColumns bind func) (putColumnsItems bind args)
  | keyword name value => keyword name (putColumns bind value)
  | index target indices => index (putColumns bind target) (putColumnsItems bind indices)
  | field target name => field (putColumns bind target) name
  | assign sink value => assign (putColumns bind sink) (putColumns bind value)
  | flagged flags inner => flagged flags (putColumns bind inner)
  | block lines => block (putColumnsItems bind lines)
  | tuple items => tuple (putColumnsItems bind items)
  | namedTuple fields => namedTuple (putColumnsFields bind fields)
  | vector items => vector (putColumnsItems bind items)
  | lambda params body => lambda params (putColumns (fun x => if params.contains x then none else bind x) body)
  | pair left right => pair (putColumns bind left) (putColumns bind right)

def putColumnsItems (bind : String → Option Column) : List Expr → List Expr
  | [] => []
  | e :: es => putColumns bind e :: putColumnsItems bind es

def putColumnsFields (bind : String → Option Column) : List (String × Expr) → List (String × Expr)
  | [] => []
  | (name, e) :: fields => (name, putColumns bind e) :: putColumnsFields bind fields

end

end Expr

structure Closure where
  params : List String
  body : Expr

namespace Closure

def toExpr (f : Closure) : Expr := .lambda f.params f.body

def render (f : Closure) : String := f.toExpr.render

def arity (f : Closure) : Nat := f.params.length

def isIdentity (f : Closure) : Bool :=
  match f.params, f.body with
  | [param], .ident name => param == name
  | _, _ => false

def instantiate (f : Closure) (sources : List Column) : Expr :=
  f.body.putColumns fun name => (f.params.zip sources).reverse.lookup name

def same (f g : Closure) : Bool := f.params == g.params && f.body.same g.body

end Closure

structure Parameters where
  entries : List (Column × String)
  names : Names

namespace Parameters

def avoiding (names : List String) : Parameters := ⟨[], Names.forIdentifiers names⟩

def find? (p : Parameters) (c : Column) : Option String := (p.entries.find? (·.1.same c)).map (·.2)

def cover (p : Parameters) (c : Column) : Parameters :=
  match p.find? c with
  | some _ => p
  | none =>
    let (name, names) := p.names.fresh c.stem
    ⟨p.entries ++ [(c, name)], names⟩

def coverAll (p : Parameters) (cs : List Column) : Parameters := cs.foldl cover p

def nameOf (p : Parameters) (c : Column) : String := (p.find? c).getD ""

def paramFor (p : Parameters) (c : Column) : String × Parameters := ((p.cover c).nameOf c, p.cover c)

def apply (p : Parameters) (e : Expr) : Expr × Parameters :=
  let q := p.coverAll e.mentions
  (e.mapColumns fun c => .ident (q.nameOf c), q)

def sources (p : Parameters) : List Column := p.entries.map (·.1)

def params (p : Parameters) : List String := p.entries.map (·.2)

end Parameters

def Expr.abstracted (e : Expr) : List Column × Closure :=
  let (body, p) := (Parameters.avoiding e.idents).apply e
  (p.sources, ⟨p.params, body⟩)

end Tabular
