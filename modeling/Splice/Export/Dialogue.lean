import Splice.Compile.Basic
import Splice.Engine.Access
import Splice.Storage.Basic

/-!
# Dialogues

On its way through the engine an export calls others: the engine, whether it is there, what it knows
about a file, and to render a plan; and the compiler, to make that plan. A dialogue is what the
service does, with these calls kept apart from its own operations. Carried out by a service it is a
job (`Dialogue.act`), and this keeps everything that jobs are put together with
(`Dialogue.act_bind`).
-/

namespace Splice

/-- What an export works with. -/
structure ExportService where
  storage : Storage
  engine : EngineAccess
  encoding : Compile.Encoding
  settings : Settings

/-- The service of the settings. -/
def ExportService.ofSettings (settings : Settings) : ExportService where
  storage := Storage.ofSettings settings none
  engine := EngineAccess.ofSettings settings "" ""
  encoding := Compile.Encoding.ofSettings settings none none
  settings

/-! ## Calls -/

/-- What an export calls: the engine, or the compiler. -/
inductive Call
  | isAvailable
  | probe (path : String)
  | compile (timeline : Timeline) (assets : AssetTable) (track : Option AudioTrack)
      (settings : RenderSettings)
  | render (plan : Plan) (locations : String → Option String) (output : String)
      (attendance : Attendance)

namespace Call

/-- What is answered to a call that does not fail. -/
@[reducible] def Answer : Call → Type
  | isAvailable => Bool
  | probe _ => Description
  | compile .. => Plan
  | render .. => String

/-- The job of a call. Files are described aside. -/
def act (x : ExportService) : (call : Call) → Act call.Answer
  | isAvailable => x.engine.isAvailable
  | probe path => (x.engine.probe path).aside
  | compile timeline assets track settings =>
    Act.orProblem (Compile.compile x.encoding timeline assets track settings)
  | render plan locations output attendance => x.engine.render plan locations output attendance

end Call

/-! ## Dialogues -/

/-- A job that may fail, with its calls kept apart from its own operations. -/
inductive Dialogue (α : Type) where
  | done (outcome : Except Failure α)
  | own (op : Operation) (next : op.Answer → Dialogue α)
  | call (call : Call) (next : call.Answer → Dialogue α)

namespace Dialogue

variable {α β : Type}

/-- One dialogue, and behind it another that depends on its result. -/
def bind : Dialogue α → (α → Dialogue β) → Dialogue β
  | done (.ok a), f => f a
  | done (.error failure), _ => done (.error failure)
  | own op next, f => own op fun answer => (next answer).bind f
  | call c next, f => call c fun answer => (next answer).bind f

instance : Monad Dialogue where
  pure a := done (.ok a)
  bind := bind

/-- The dialogue of a job that calls nobody. -/
def ofJob : Job (Except Failure α) → Dialogue α
  | .done outcome => done outcome
  | .ask op next => own op fun answer => ofJob (next answer)

/-- The dialogue of an act that calls nobody. -/
def ofAct (act : Act α) : Dialogue α := ofJob act.run

/-- The dialogue of a single call. -/
def ask (c : Call) : Dialogue c.Answer := call c fun answer => done (.ok answer)

/-! ## Carrying dialogues out -/

/-- What a service does in a dialogue. -/
def act (x : ExportService) : Dialogue α → Act α
  | done outcome => Act.orFailure outcome
  | own op next => Act.request op >>= fun answer => (next answer).act x
  | call c next => c.act x >>= fun answer => (next answer).act x

variable {x : ExportService}

@[simp] theorem act_pure (a : α) : act x (pure a) = pure a := rfl

@[simp] theorem act_ofAct (given : Act α) : (ofAct given).act x = given := by
  unfold ofAct
  change (ofJob (show Job (Except Failure α) from given)).act x = given
  generalize (show Job (Except Failure α) from given) = job
  induction job with
  | done outcome => cases outcome <;> rfl
  | ask op next ih => exact congrArg (Job.ask op) (funext ih)

@[simp] theorem act_ask (c : Call) : (ask c).act x = c.act x := by
  exact bind_pure (c.act x)

@[simp] theorem act_bind (d : Dialogue α) (f : α → Dialogue β) :
    (d >>= f).act x = d.act x >>= fun a => (f a).act x := by
  change (d.bind f).act x = _
  induction d with
  | done outcome => cases outcome <;> rfl
  | own op next ih =>
    simp only [bind, act, bind_assoc]
    exact congrArg _ (funext ih)
  | call c next ih =>
    simp only [bind, act, bind_assoc]
    exact congrArg _ (funext ih)

end Dialogue

end Splice
