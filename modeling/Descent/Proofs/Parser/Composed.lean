import Descent.Parser.Sequence

set_option autoImplicit false

namespace Descent.Parser

variable {σ α β : Type} {text : Text} {pos : Int}

theorem map_of_reply {p : Parser σ α} {reply : Reply α} (f : α → β)
    (replies : p text pos = Pure.pure reply) : p.map f text pos = Pure.pure (reply.map f) := by
  rw [map, replies, pure_bind]

theorem map_of_success {p : Parser σ α} {value : α} {stop : Int} (f : α → β)
    (replies : p text pos = Pure.pure (.success value stop)) :
    p.map f text pos = Pure.pure (.success (f value) stop) :=
  map_of_reply f replies

theorem anchored_of_reply {p : Parser σ α} {reply : Reply α}
    (replies : p text pos = Pure.pure reply) :
    p.anchored text pos = Pure.pure (reply.anchor pos) := by
  rw [anchored, replies, pure_bind]

theorem tryMap_of_success {p : Parser σ α} {value : α} {stop : Int} (f : α → Except Fault β)
    (replies : p text pos = Pure.pure (.success value stop)) :
    p.tryMap f text pos = do return .success (← Action.ofExcept (f value)) stop := by
  unfold Parser.tryMap
  rw [replies, pure_bind]

theorem tryMap_of_failure {p : Parser σ α} {refusal : Failure} (f : α → Except Fault β)
    (replies : p text pos = Pure.pure (.failure refusal)) :
    p.tryMap f text pos = Pure.pure (.failure refusal) := by
  unfold Parser.tryMap
  rw [replies, pure_bind]

theorem tryMap_of_error {p : Parser σ α} {value : α} {stop : Int} {f : α → Except Fault β}
    {fault : Fault} (replies : p text pos = Pure.pure (.success value stop))
    (refused : f value = .error fault) : p.tryMap f text pos = Action.raise fault := by
  rw [tryMap_of_success f replies, refused]
  rfl

theorem bind_of_success {p : Parser σ α} {next : α → Parser σ β} {value : α} {stop : Int}
    (replies : p text pos = Pure.pure (.success value stop)) :
    p.bind next text pos = do return (← next value text stop).anchor pos := by
  unfold Parser.bind
  rw [replies, pure_bind]

theorem bind_of_failure {p : Parser σ α} {next : α → Parser σ β} {refusal : Failure}
    (replies : p text pos = Pure.pure (.failure refusal)) :
    p.bind next text pos = Pure.pure (.failure (refusal.anchor pos)) := by
  unfold Parser.bind
  rw [replies, pure_bind]

theorem orElse_of_success {p q : Parser σ α} {value : α} {stop : Int}
    (replies : p text pos = Pure.pure (.success value stop)) :
    p.orElse q text pos = Pure.pure (.success value stop) := by
  rw [orElse, replies, pure_bind]

theorem orElse_of_failure {p q : Parser σ α} {refusal : Failure} {reply : Reply α}
    (refused : p text pos = Pure.pure (.failure refusal)) (replies : q text pos = Pure.pure reply) :
    p.orElse q text pos = Pure.pure (reply.anchor pos) := by
  rw [orElse, refused, pure_bind, replies, pure_bind]

theorem inTurn_of_success {p : Parser σ α} {ps : List (Parser σ α)} {middle : Int} {value : α}
    {reply : Reply (List α)} (first : p text pos = Pure.pure (.success value middle))
    (rest : inTurn ps text middle = Pure.pure reply) :
    inTurn (p :: ps) text pos = Pure.pure (reply.map (value :: ·)) := by
  rw [inTurn, first, pure_bind]
  dsimp only
  rw [rest, pure_bind]

theorem inTurn_of_failure {p : Parser σ α} {refusal : Failure}
    (first : p text pos = Pure.pure (.failure refusal)) (ps : List (Parser σ α)) :
    inTurn (p :: ps) text pos = Pure.pure (.failure refusal) := by
  rw [inTurn, first, pure_bind]

end Descent.Parser
