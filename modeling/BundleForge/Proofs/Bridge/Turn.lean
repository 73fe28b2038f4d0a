import BundleForge.Proofs.Bridge.Fit
import BundleForge.Proofs.Bridge.Response

/-!
What one item comes to in a conversation. Main statement: an item whose members fit the use made of
them is answered as it asks, and ends as its sort says.
-/

namespace BundleForge

/-- Whether it passes between a conversation and its bundler. -/
def Event.isTraffic : Event → Bool
  | .read | .sent _ => true
  | _ => false

/-- What passes between a conversation and its bundler, of all that happens. -/
def traffic (events : List Event) : List Event := events.filter Event.isTraffic

@[simp] theorem traffic_nil : traffic [] = [] := rfl

@[simp] theorem traffic_append (a b : List Event) : traffic (a ++ b) = traffic a ++ traffic b := by
  simp [traffic]

@[simp] theorem traffic_sent (message : Json) (rest : List Event) :
    traffic (.sent message :: rest) = .sent message :: traffic rest := rfl

@[simp] theorem traffic_read (rest : List Event) : traffic (.read :: rest) = .read :: traffic rest := rfl

@[simp] theorem traffic_log (l : Level) (severity : Severity) (text : String) :
    traffic (l.log severity text) = [] := by
  unfold Level.log
  split <;> rfl

namespace Resolution.Policy

/-- An import that no rule decides before it is looked up. -/
def looksUp (p : Policy) (r : Request) : Bool :=
  !p.rules.isHost r.path && !p.rules.isInternal r.path && r.kind == staticImport &&
    !startsWith p.rules.rootAlias r.path && !isFilePath r.path

/-- A request that tells, as a text, where the import was found or why it was not. -/
def tells (r : Request) : Bool :=
  match r.located with
  | some located => located.kind == .str
  | none => r.lookupError.any fun error => error.kind == .str

theorem package_of_str (p : Policy) (path : String) {located : Json} (h : located.kind = .str) :
    ∃ decision, p.package path located = .ok decision := by
  unfold package
  cases located with
  | str s => simp only [Json.spelled?]; split <;> exact ⟨_, rfl⟩
  | halved codes => simp only [Json.spelled?]; split <;> exact ⟨_, rfl⟩
  | _ => simp [Json.kind] at h

/-- A request that tells what was found is decided, or refused with a text. -/
theorem resolve_of_tells (p : Policy) (t : Tree) {r : Request} (h : p.looksUp r = true → tells r = true) :
    (∃ decision, p.resolve t r = .ok decision) ∨ ∃ text, p.resolve t r = .error (.unresolved text) := by
  unfold resolve
  split_ifs with host internal root file
  · exact .inl ⟨_, rfl⟩
  · exact .inl ⟨_, rfl⟩
  · exact .inl ⟨_, rfl⟩
  · exact .inl ⟨_, rfl⟩
  have hr : tells r = true := h (by simp_all [looksUp])
  unfold tells at hr
  unfold lookup
  cases hl : r.located with
  | some located =>
    simp only [hl, beq_iff_eq] at hr
    exact .inl (package_of_str p r.path hr)
  | none =>
    simp only [hl, Option.any_eq_true] at hr
    obtain ⟨error, he, -⟩ := hr
    refine .inr ⟨error.text, ?_⟩
    simp only [he]
    rfl

end Resolution.Policy

namespace Bridge

namespace Session

/-- Whether the members of a message can be used as its type has it: lists and objects in their places
always can. A look-up tells what the bundler found itself. -/
def expects (s : Session) (message : List (String × Json)) (kind : Json) : Bool :=
  match kind with
  | .str "resolve" => s.policy.all fun policy =>
    let request := Resolution.Request.ofMembers message
    !policy.looksUp request || Resolution.Policy.tells request
  | .str "rebuild" => listable "errors" message && listable "warnings" message
  | .str "result" => namesFiles message && listable "warnings" message
  | .str "error" => listable "errors" message && errorsPlaced message
  | _ => true

/-- What is done after a rebuild is no message to the bundler. -/
def Silent (s : Session) : Prop := ∀ rebuild, traffic (s.onRebuild rebuild) = []

end Session

/-- What an item does to a conversation: it passes, brings the result, tells of an error that a listener
survives, or breaks off the reading. -/
inductive Effect
  | passes
  | result
  | error
  | breaks
deriving DecidableEq

def effectOf (kind : Json) : Effect :=
  match kind with
  | .str "result" => .result
  | .str "error" => .error
  | _ => .passes

theorem effectOf_ne_breaks (kind : Json) : effectOf kind ≠ .breaks := by
  unfold effectOf
  split <;> simp

theorem effectOf_eq_result {kind : Json} (h : effectOf kind = .result) : kind = .str "result" := by
  unfold effectOf at h
  split at h
  · rfl
  · cases h
  · cases h

def Effect.Gives : Effect → Except Fault (Option Outcome) → Prop
  | .passes, r => r = .ok none
  | .result, r => ∃ outcome, r = .ok (some outcome)
  | .error, r => ∃ text errors, r = .error (.bundler text errors)
  | .breaks, r => ∃ fault, r = .error fault ∧ fault.course ≠ .goesOn

/-- The effect of an item that comes to this. -/
def Effect.of : Except Fault (Option Outcome) → Effect
  | .ok none => .passes
  | .ok (some _) => .result
  | .error fault => if fault.course = .goesOn then .error else .breaks

theorem Effect.Gives.eq_of {effect : Effect} {r : Except Fault (Option Outcome)} (h : effect.Gives r) :
    effect = .of r := by
  cases effect with
  | passes =>
    obtain rfl : r = .ok none := h
    rfl
  | result =>
    obtain ⟨outcome, rfl⟩ := h
    rfl
  | error =>
    obtain ⟨text, errors, rfl⟩ := h
    rfl
  | breaks =>
    obtain ⟨fault, rfl, course⟩ := h
    simp [Effect.of, course]

/-- The word and the number that the reply to a message has to carry, where it asks for one. -/
def askedBy (message : List (String × Json)) (kind : Json) : Option (Json × Json) :=
  match kind with
  | .str "resolve" => some (.str "resolved", Session.idOf message)
  | .str "load" => some (.str "loaded", Session.idOf message)
  | _ => none

/-- The word and the number that a message carries. -/
def heading : Json → Json × Json
  | .obj members => ((members.lookup "type").getD .null, (members.lookup "id").getD .null)
  | _ => (.null, .null)

namespace Session

theorem run_say (s : Session) (severity : Severity) (text : String) (w : Wire) :
    (s.say severity text).run w =
      ⟨.ok (), w, s.level.log severity ("[" ++ s.label ++ "]: " ++ text)⟩ := rfl

end Session

namespace Item

/-- The message in an item, and its type. -/
def message? : Item → Option (List (String × Json) × Json)
  | .line text => (readMessage text).toOption
  | _ => none

def effect : Item → Effect
  | .line text =>
    match readMessage text with
    | .ok (_, kind) => effectOf kind
    | .error (.malformed _) => .error
    | .error _ => .breaks
  | _ => .breaks

/-- The word and the number that the reply to an item has to carry, where it asks for one. -/
def asked (item : Item) : Option (Json × Json) := item.message?.bind fun m => askedBy m.1 m.2

end Item

namespace Session

def expectsItem (s : Session) (item : Item) : Bool :=
  item.message?.all fun m => s.expects m.1 m.2

variable {s : Session} {item : Item} {message : List (String × Json)} {kind : Json}

theorem respond_of_message (h : item.message? = some (message, kind)) (s : Session) :
    s.respond item = s.responseTo message kind := by
  cases item with
  | broken | unreadable | undecodable => cases h
  | line text =>
    cases read : readMessage text with
    | error fault => simp [Item.message?, read, Except.toOption] at h
    | ok m =>
      obtain rfl : m = (message, kind) := by simpa [Item.message?, read, Except.toOption] using h
      simp only [respond, read]

/-- What is no message comes to a fault, and to nothing else. -/
theorem respond_of_no_message (h : item.message? = none) (s : Session) :
    ∃ fault, s.respond item = { comes := .error fault } := by
  cases item with
  | broken | unreadable | undecodable => exact ⟨_, rfl⟩
  | line text =>
    cases read : readMessage text with
    | error fault => exact ⟨.ofLine fault, by simp only [respond, read]⟩
    | ok m => simp [Item.message?, read, Except.toOption] at h

theorem expects_of_message (h : item.message? = some (message, kind)) (expected : s.expectsItem item = true) :
    s.expects message kind = true := by
  simpa [expectsItem, h] using expected

/-- What a look-up that tells what was found is answered with. -/
inductive Resolving (s : Session) (p : Resolution.Policy) (message : List (String × Json)) : Response → Prop
  | decided (decision : Resolution.Decision)
      (resolved : p.resolve s.tree (.ofMembers message) = .ok decision) :
      Resolving s p message {
        told := s.level.log .debug
          ("[" ++ s.label ++ "]: " ++ ((Resolution.Request.ofMembers message).path ++ " -> " ++ decision.word))
        reply := some (resolvedMessage (idOf message) decision.toHook none) }
  | unresolved (text : String) (resolved : p.resolve s.tree (.ofMembers message) = .error (.unresolved text)) :
      Resolving s p message { reply := some (resolvedMessage (idOf message) .null (some text)) }

theorem resolving_of_policy {p : Resolution.Policy} (policy : s.policy = some p)
    (h : s.expects message (.str "resolve") = true) : Resolving s p message (s.resolving message) := by
  have tells : p.looksUp (.ofMembers message) = true → Resolution.Policy.tells (.ofMembers message) = true := by
    intro looks
    simpa [expects, policy, looks] using h
  simp only [resolving, policy]
  obtain ⟨decision, resolved⟩ | ⟨text, resolved⟩ := p.resolve_of_tells s.tree tells
  · rw [resolved]
    exact .decided decision resolved
  · rw [resolved]
    exact .unresolved text resolved

/-- An item whose members fit is replied to as it asks. -/
theorem heading_reply (expected : s.expectsItem item = true) :
    (s.respond item).reply.map heading = item.asked := by
  cases h : item.message? with
  | none =>
    obtain ⟨fault, responds⟩ := respond_of_no_message h s
    simp [responds, Item.asked, h]
  | some m =>
    obtain ⟨message, kind⟩ := m
    have fits := expects_of_message h expected
    rw [respond_of_message h, Item.asked, h]
    unfold responseTo
    split
    · cases policy : s.policy with
      | none =>
        simp only [resolving, policy]
        rfl
      | some p =>
        generalize responded : s.resolving message = x
        cases responded ▸ resolving_of_policy policy fits with
        | decided => rfl
        | unresolved => rfl
    · rfl
    · split <;> rfl
    · rfl
    · rfl
    · rename_i resolve load _ _ _
      simp only [Option.bind_some, Option.map_none]
      unfold askedBy
      split
      · exact absurd rfl resolve
      · exact absurd rfl load
      · rfl

/-- A message whose members fit comes to what its type says. -/
theorem gives_responseTo (fits : s.expects message kind = true) :
    (effectOf kind).Gives (s.responseTo message kind).comes := by
  unfold responseTo
  split
  · cases policy : s.policy with
    | none =>
      simp only [resolving, policy]
      rfl
    | some p =>
      generalize responded : s.resolving message = x
      cases responded ▸ resolving_of_policy policy fits with
      | decided => rfl
      | unresolved => rfl
  · rfl
  · have handed : Fits (s.expects message (.str "rebuild")) _ := fits_rebuildOf message
    rw [fits] at handed
    obtain ⟨rebuild, hr⟩ := handed
    rw [hr]
    rfl
  · have brought : Fits (s.expects message (.str "result")) _ := fits_outcomeOf message
    rw [fits] at brought
    obtain ⟨outcome, ho⟩ := brought
    rw [ho]
    exact ⟨outcome, rfl⟩
  · have told : Fits (s.expects message (.str "error")) _ := fits_errorOf message
    rw [fits] at told
    obtain ⟨fault, hf⟩ := told
    obtain ⟨text, errors, rfl⟩ := errorOf_eq_ok hf
    rw [hf]
    exact ⟨text, errors, rfl⟩
  · rename_i result error
    have passes : effectOf kind = .passes := by
      unfold effectOf
      split
      · exact absurd rfl result
      · exact absurd rfl error
      · rfl
    rw [passes]
    rfl

/-- An item whose members fit comes to what it does to a conversation. -/
theorem gives_respond (expected : s.expectsItem item = true) : item.effect.Gives (s.respond item).comes := by
  cases item with
  | broken text => exact ⟨_, rfl, by simp [Fault.course]⟩
  | unreadable text => exact ⟨_, rfl, by simp [Fault.course]⟩
  | undecodable refusal => exact ⟨_, rfl, by simp [Fault.course]⟩
  | line text =>
    cases read : readMessage text with
    | ok m =>
      have fits : s.expects m.1 m.2 = true := by
        simpa [expectsItem, Item.message?, read, Except.toOption] using expected
      simp only [Item.effect, respond, read]
      exact gives_responseTo fits
    | error fault =>
      simp only [Item.effect, respond, read]
      cases fault with
      | malformed line => exact ⟨_, _, rfl⟩
      | tooDeep => exact ⟨_, rfl, by decide⟩
      | integer fault => exact ⟨_, rfl, by simp [Fault.ofLine, Fault.course]⟩

/-- The effect of an item whose members fit can be told from the response to it. -/
theorem effect_eq (expected : s.expectsItem item = true) : item.effect = .of (s.respond item).comes :=
  (gives_respond expected).eq_of

theorem traffic_told (silent : s.Silent) (item : Item) : traffic (s.respond item).told = [] := by
  obtain none | ⟨text, logged⟩ | ⟨rebuild, handed⟩ := told_cases s item
  · rw [none, traffic_nil]
  · rw [logged, traffic_log]
  · rw [handed, silent rebuild]

end Session

/-- An item that was read, and the reply that was sent before the next one was. -/
structure Turn where
  item : Item
  reply : Option Json

namespace Turn

def events (t : Turn) : List Event := .read :: t.reply.toList.map .sent

/-- The reply is there exactly when it is asked for, and carries the word and the number asked for. -/
def Answered (t : Turn) : Prop := t.reply.map heading = t.item.asked

end Turn

namespace Session

/-- What the session's response makes of an item for the one who reads along. -/
def turn (s : Session) (item : Item) : Turn := ⟨item, (s.respond item).reply⟩

theorem turn_answered {s : Session} {item : Item} (expected : s.expectsItem item = true) :
    (s.turn item).Answered := heading_reply expected

end Session
end Bridge
end BundleForge
