import BundleForge.Bridge.Session
import Mathlib.Tactic.Common

/-!
What a session makes of an item, apart from how it is done. Main statement: to take an item is to tell what
its response tells, to write the reply, if there is one, and to come to what the response comes to; a reply
that cannot be written breaks it off before that.
-/

namespace BundleForge.Bridge

/-- What is made of an item: what is told first, the reply, whether the bundler has reported an error, and
what it comes to once the reply is written. -/
structure Response where
  told : List Event := []
  reply : Option Json := none
  reports : Bool := false
  comes : Except Fault (Option Outcome) := .ok none

namespace Response

/-- There is a reply, and no write succeeds any more. -/
def Refused (x : Response) (w : Wire) : Prop := x.reply.isSome = true ∧ w.writesLeft = some 0

instance (x : Response) (w : Wire) : Decidable (x.Refused w) :=
  inferInstanceAs (Decidable (_ ∧ _))

/-- The wire after a response. -/
def after (x : Response) (w : Wire) : Wire :=
  { w with writesLeft := w.writesLeft.map (· - x.reply.toList.length), reported := w.reported || x.reports }

@[simp] theorem unread_after (x : Response) (w : Wire) : (x.after w).unread = w.unread := rfl

def events (x : Response) : List Event := x.told ++ x.reply.toList.map .sent

/-- What a response does over a wire. -/
def on (x : Response) (w : Wire) : Done Fault Wire (Option Outcome) :=
  if x.Refused w then ⟨.error (.system w.writeFault), w, x.told⟩ else ⟨x.comes, x.after w, x.events⟩

theorem on_of_refused {x : Response} {w : Wire} (h : x.Refused w) :
    x.on w = ⟨.error (.system w.writeFault), w, x.told⟩ := if_pos h

theorem on_of_written {x : Response} {w : Wire} (h : ¬ x.Refused w) : x.on w = ⟨x.comes, x.after w, x.events⟩ :=
  if_neg h

theorem unread_on (x : Response) (w : Wire) : (x.on w).state.unread = w.unread := by
  unfold on
  split <;> rfl

/-- Without a reply nothing can be refused, and without a report the wire stays as it is. -/
theorem on_silent (told : List Event) (comes : Except Fault (Option Outcome)) (w : Wire) :
    (Response.mk told none false comes).on w = ⟨comes, w, told⟩ := by
  obtain ⟨unread, left, fault, reported⟩ := w
  rw [on_of_written (by simp [Refused])]
  cases left <;> simp [after, events]

end Response

/-- What an import that could not be decided is to a conversation. -/
def Fault.ofResolve : Resolution.ResolveFault → Fault
  | .unresolved text => .unresolved text
  | .misfit fault => .misfit fault
  | .name fault => .name fault
  | .system fault => .system fault

/-- A value that may have been refused, as a result of its own. -/
def fitted {α : Type} : Except Misfit α → Except Fault α
  | .ok a => .ok a
  | .error fault => .error (.misfit fault)

namespace Session

/-- The response to a look-up. -/
def resolving (s : Session) (message : List (String × Json)) : Response :=
  match s.policy with
  | none => { reply := some (resolvedMessage (idOf message) .null none) }
  | some policy =>
    let request := Resolution.Request.ofMembers message
    match policy.resolve s.tree request with
    | .ok decision => {
        told := s.level.log .debug ("[" ++ s.label ++ "]: " ++ (request.path ++ " -> " ++ decision.word))
        reply := some (resolvedMessage (idOf message) decision.toHook none) }
    | .error (.unresolved text) => { reply := some (resolvedMessage (idOf message) .null (some text)) }
    | .error fault => { comes := .error (.ofResolve fault) }

/-- The contents of a module, as far as the session knows them. -/
def contents (s : Session) (message : List (String × Json)) : Json :=
  match s.policy with
  | none => .null
  | some policy => policy.load ((message.lookup "namespace").getD (.str "")).text

/-- The response to a message. -/
def responseTo (s : Session) (message : List (String × Json)) (kind : Json) : Response :=
  match kind with
  | .str "resolve" => s.resolving message
  | .str "load" => { reply := some (loadedMessage (idOf message) (s.contents message)) }
  | .str "rebuild" =>
    match rebuildOf message with
    | .ok rebuild => { told := s.onRebuild rebuild }
    | .error fault => { comes := .error (.misfit fault) }
  | .str "result" => { comes := (fitted (outcomeOf message)).map some }
  | .str "error" => { reports := true, comes := fitted (errorOf message) >>= .error }
  | kind => {
      told := s.level.log .debug
        ("[" ++ s.label ++ "]: " ++ ("Ignoring bridge message of type '" ++ kind.text ++ "'")) }

/-- The response to an item. -/
def respond (s : Session) (item : Item) : Response :=
  match item with
  | .broken text => { comes := .error (.system (.reported text)) }
  | .unreadable text => { comes := .error (.reading text) }
  | .undecodable refusal => { comes := .error (.undecodable refusal) }
  | .line text =>
    match readMessage text with
    | .ok (message, kind) => s.responseTo message kind
    | .error fault => { comes := .error (.ofLine fault) }

/-- Something is told and a reply is written, or refused. -/
def Replies (a : Step Unit) (told : List Event) (reply : Json) : Prop := ∀ w,
  a.run w =
    if w.writesLeft = some 0 then ⟨.error (.system w.writeFault), w, told⟩
    else ⟨.ok (), { w with writesLeft := w.writesLeft.map (· - 1) }, told ++ [.sent reply]⟩

theorem replies_send (message : Json) : Replies (send message) [] message := by
  rintro ⟨unread, left, fault, reported⟩
  rcases left with _ | _ | left <;> rfl

theorem Replies.tell {a : Step Unit} {told : List Event} {reply : Json} (h : Replies a told reply)
    (first : List Event) : Replies (do Action.emit first; a) (first ++ told) reply := by
  intro w
  rw [Action.run_bind_ok (Action.run_emit first w), h w]
  split <;> simp

/-- An item that is answered comes to nothing by itself. -/
theorem Replies.run {a : Step Unit} {told : List Event} {reply : Json} (h : Replies a told reply) (w : Wire) :
    (do a; return none : Step (Option Outcome)).run w = ({ told, reply := some reply } : Response).on w := by
  have ran := h w
  split at ran <;> rename_i refused
  · rw [Action.run_bind_error ran, Response.on_of_refused ⟨rfl, refused⟩]
  · rw [Action.run_bind_ok ran, Response.on_of_written (by simp [Response.Refused, refused])]
    simp [Response.after, Response.events]

theorem run_answerResolve (s : Session) (message : List (String × Json)) (w : Wire) :
    (do s.answerResolve message; return none : Step (Option Outcome)).run w = (s.resolving message).on w := by
  unfold answerResolve resolving
  cases s.policy with
  | none => exact (replies_send _).run w
  | some policy =>
    dsimp only
    cases policy.resolve s.tree (.ofMembers message) with
    | ok decision =>
      have replies := (replies_send (resolvedMessage (idOf message) decision.toHook none)).tell
        (s.level.log .debug ("[" ++ s.label ++ "]: " ++
          ((Resolution.Request.ofMembers message).path ++ " -> " ++ decision.word)))
      rw [List.append_nil] at replies
      exact replies.run w
    | error fault =>
      cases fault with
      | unresolved text => exact (replies_send _).run w
      | misfit | name | system => exact (Response.on_silent _ _ w).symm

theorem responseTo_resolve (s : Session) (message : List (String × Json)) :
    s.responseTo message (.str "resolve") = s.resolving message := rfl

theorem responseTo_load (s : Session) (message : List (String × Json)) :
    s.responseTo message (.str "load") =
      { reply := some (loadedMessage (idOf message) (s.contents message)) } := rfl

/-- A message of no known type is only told of. -/
theorem responseTo_other {kind : Json} (resolve : kind ≠ .str "resolve") (load : kind ≠ .str "load")
    (rebuild : kind ≠ .str "rebuild") (result : kind ≠ .str "result") (error : kind ≠ .str "error")
    (s : Session) (message : List (String × Json)) :
    s.responseTo message kind = {
      told := s.level.log .debug
        ("[" ++ s.label ++ "]: " ++ ("Ignoring bridge message of type '" ++ kind.text ++ "'")) } := by
  unfold responseTo
  split <;> first | rfl | contradiction

theorem run_handle (s : Session) (message : List (String × Json)) (kind : Json) (w : Wire) :
    (s.handle message kind).run w = (s.responseTo message kind).on w := by
  unfold handle
  split
  · exact run_answerResolve s message w
  · exact (replies_send _).run w
  · unfold responseTo
    cases rebuildOf message with
    | error fault => exact (Response.on_silent _ _ w).symm
    | ok rebuild =>
      refine Eq.trans ?_ (Response.on_silent (s.onRebuild rebuild) _ w).symm
      show (⟨.ok none, w, [] ++ (s.onRebuild rebuild ++ [])⟩ : Done Fault Wire (Option Outcome)) = _
      simp
  · unfold responseTo
    cases outcomeOf message with
    | error fault => exact (Response.on_silent _ _ w).symm
    | ok outcome => exact (Response.on_silent _ _ w).symm
  · unfold responseTo
    obtain ⟨unread, left, refusal, reported⟩ := w
    rw [Response.on_of_written (by simp [Response.Refused])]
    cases errorOf message <;> cases left <;> simp [Response.after, Response.events] <;> rfl
  · rename_i resolve load rebuild result error
    rw [responseTo_other resolve load rebuild result error, Response.on_silent]
    show (⟨.ok none, w, s.level.log .debug _ ++ []⟩ : Done Fault Wire (Option Outcome)) = _
    simp

/-- To take an item is to respond to it. -/
theorem run_take (s : Session) (item : Item) (w : Wire) : (s.take item).run w = (s.respond item).on w := by
  cases item with
  | broken | unreadable | undecodable => exact (Response.on_silent _ _ w).symm
  | line text =>
    unfold take respond
    dsimp only
    cases readMessage text with
    | ok m => exact run_handle s m.1 m.2 w
    | error fault => exact (Response.on_silent _ _ w).symm

/-- What is told is a line, or what is done after a rebuild. -/
theorem told_cases (s : Session) (item : Item) :
    (s.respond item).told = [] ∨ (∃ text, (s.respond item).told = s.level.log .debug text) ∨
      ∃ rebuild, (s.respond item).told = s.onRebuild rebuild := by
  unfold respond
  split
  · exact .inl rfl
  · exact .inl rfl
  · exact .inl rfl
  · split
    · unfold responseTo
      split
      · unfold resolving
        split
        · exact .inl rfl
        · dsimp only
          split
          · exact .inr (.inl ⟨_, rfl⟩)
          · exact .inl rfl
          · exact .inl rfl
      · exact .inl rfl
      · split
        · exact .inr (.inr ⟨_, rfl⟩)
        · exact .inl rfl
      · exact .inl rfl
      · exact .inl rfl
      · exact .inr (.inl ⟨_, rfl⟩)
    · exact .inl rfl

end Session
end BundleForge.Bridge
