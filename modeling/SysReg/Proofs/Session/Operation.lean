import SysReg.Proofs.Session.Calls
import SysReg.Report.Dump

/-!
# Operations on a session

A session is driven by operations: dumps, reads of single registers, and what is done with the
results.  `Session.perform` carries one out, and `Session.performAll` any number of them, each in the
session that the one before left.

The reader, the clock, the files and the watching callers share a state here, which every operation
may change and on which every answer may depend.  With a trace the operations do as before
(`erasesTo_performAll`).
-/

namespace SysReg

/-- What a session works with: instruments, and a way to write a text to a file. -/
structure Surroundings (m : Type → Type) where
  tools : Instruments m
  write : String → String → m (Except FileFault Unit)

/-- An operation on a session.  Any dump can be written or shown, also one of another session. -/
inductive Operation (m : Type → Type) where
  | dump (label : String) (filter : Option Category)
  | dumpWatched (label : String) (filter : Option Category) (watch : Reading → m Bool)
  | readOne (text : String)
  | persist (d : Dump) (path : String)
  | display (d : Dump) (form : OutputForm)
  | reset

/-- What an operation gives back. -/
inductive Reply where
  | dumped (d : Dump)
  | decoded (result : Except Failure DecodedReading)
  | written (result : Except Failure Unit)
  | shown (text : String)
  | done

namespace Session

variable {m : Type → Type} [Monad m]

/-- Carries out an operation. -/
def perform (env : Surroundings m) (c : Catalog) (s : Session) :
    Operation m → m (Session × Reply)
  | .dump label filter => Prod.map id .dumped <$> s.dump env.tools c label filter
  | .dumpWatched label filter watch =>
    Prod.map id .dumped <$> s.dumpWatched env.tools c label filter watch
  | .readOne text => (fun result => (s, .decoded result)) <$> readOne env.tools c text
  | .persist d path => Prod.map id .written <$> s.persist env.write d path
  | .display d form => pure (Prod.map id .shown (s.display c d form))
  | .reset => pure (s.reset, .done)

/-- Carries out operations one after the other, and gives the session after each with its reply. -/
def performAll (env : Surroundings m) (c : Catalog) (s : Session) :
    List (Operation m) → m (List (Session × Reply))
  | [] => return []
  | op :: rest => do
    let (next, reply) ← s.perform env c op
    let later ← next.performAll env c rest
    return (next, reply) :: later

end Session

/-! ## With a trace -/

variable {σ : Type}

/-- The surroundings, with a trace of what the reader is asked. -/
def Surroundings.traced (env : Surroundings (StateM σ)) :
    Surroundings (StateM (σ × List Exchange)) where
  tools := env.tools.traced
  write path text := noting (env.write path text) fun _ => []

/-- The operation with a trace of what it asks.  A plain dump is one that a caller watches without
ever stopping it, and is traced as such. -/
def Operation.traced : Operation (StateM σ) → Operation (StateM (σ × List Exchange))
  | .dump label filter => .dumpWatched label filter (tracedWatch fun _ => pure false)
  | .dumpWatched label filter watch => .dumpWatched label filter (tracedWatch watch)
  | .readOne text => .readOne text
  | .persist d path => .persist d path
  | .display d form => .display d form
  | .reset => .reset

namespace Session

variable (env : Surroundings (StateM σ)) (c : Catalog)

lemma erasesTo_readOne (tools : Instruments (StateM σ)) (text : String) :
    ErasesTo (readOne tools.traced c text) (readOne tools c text) := by
  rw [readOne, readOne]
  cases c.resolve text with
  | error failure => exact .of_pure _
  | ok d => exact .bind (tools.erasesTo_take d.name d.encoding) fun _ => .of_pure _

lemma erasesTo_write (path text : String) :
    ErasesTo (env.traced.write path text) (env.write path text) :=
  ErasesTo.of_noting (env.write path text) fun _ => []

lemma erasesTo_persist (s : Session) (d : Dump) (path : String) :
    ErasesTo (s.persist env.traced.write d path) (s.persist env.write d path) := by
  refine .bind (erasesTo_write env path d.snapshot.text) fun result => ?_
  cases result <;> exact .of_pure _

lemma erasesTo_perform (s : Session) (op : Operation (StateM σ)) :
    ErasesTo (s.perform env.traced c op.traced) (s.perform env c op) := by
  cases op with
  | dump label filter => exact (s.erasesTo_dumpWatched c label filter).map _
  | dumpWatched label filter watch => exact (s.erasesTo_dumpWatched c label filter).map _
  | readOne text => exact (erasesTo_readOne c env.tools text).map _
  | persist d path => exact (erasesTo_persist env s d path).map _
  | display d form => exact .of_pure _
  | reset => exact .of_pure _

lemma erasesTo_performAll (s : Session) (ops : List (Operation (StateM σ))) :
    ErasesTo (s.performAll env.traced c (ops.map Operation.traced)) (s.performAll env c ops) := by
  induction ops generalizing s with
  | nil => exact .of_pure []
  | cons op ops ih =>
    exact .bind (erasesTo_perform env c s op) fun (next, reply) =>
      .bind (ih next) fun later => .of_pure ((next, reply) :: later)

end Session
end SysReg
