import BundleForge.Proofs.Bridge.Replies
import BundleForge.Proofs.Resolution.External

/-!
The namespace of the stubs, as it goes through a whole conversation. Main statement: the namespace whose
loads the bundler is told to hand over, the one in the replies to the host's imports and the one whose loads
are answered with contents are the same text.
-/

namespace BundleForge

/-- The value at the end of a path of member names. -/
def Json.under : List String → Json → Option Json
  | [], j => some j
  | name :: rest, .obj members => (members.lookup name).bind (under rest)
  | _ :: _, _ => none

namespace Resolution.Policy

variable {t : Tree} {p : Policy} {r : Request} {decision : Decision}

/-- No import but the host's is put into a namespace. -/
theorem namespace?_of_resolve (host : p.rules.isHost r.path = false) (h : p.resolve t r = .ok decision) :
    decision.namespace? = none := by
  unfold resolve at h
  split_ifs at h with stubbed
  · simp [host] at stubbed
  · obtain rfl := Except.ok.inj h
    rfl
  · obtain rfl := Except.ok.inj h
    rfl
  · obtain rfl := Except.ok.inj h
    rfl
  · obtain ⟨located, -, packaged⟩ := bind_eq_ok.mp h
    obtain ⟨found, -, rfl⟩ := package_eq_ok_iff.mp packaged
    rfl

end Resolution.Policy

namespace Bridge

open Resolution (OfHost textMember)

/-- A reply that puts an import into the namespace of the stubs. -/
structure Stubs (rules : Resolution.Rules) (reply : Json) : Prop where
  namespace_ : reply.under ["result", "namespace"] = some (.str rules.stubNamespace)
  path : reply.under ["result", "path"] = some (.str rules.stubPath)
  error : reply.under ["error"] = none

/-- The reply to an item goes by the namespace of the stubs: the host's imports, and no others, are put into
it, and what is in it, and nothing else, has contents, which are empty. -/
structure Turn.Agrees (rules : Resolution.Rules) (t : Turn) : Prop where
  resolve : ∀ message, t.item.message? = some (message, .str "resolve") → ∃ reply, t.reply = some reply ∧
    if OfHost (textMember "path" message) then Stubs rules reply
    else reply.under ["result", "namespace"] = none
  load : ∀ message, t.item.message? = some (message, .str "load") → ∃ reply, t.reply = some reply ∧
    reply.under ["result"] = some
      (if textMember "namespace" message = rules.stubNamespace then .obj [("contents", .str "")] else .null)
  other : t.item.asked = none → t.reply = none

namespace Session

variable {s : Session} {p : Resolution.Policy} {item : Item} {message : List (String × Json)}

theorem announced_namespace (policy : s.policy = some p) (o : Options) :
    (s.buildMessage o).under ["plugin", "loadNamespace"] = some (.str p.rules.stubNamespace) := by
  unfold buildMessage
  rw [policy]
  rfl

theorem under_resolvedMessage (id : Json) (decision : Resolution.Decision) :
    (resolvedMessage id decision.toHook none).under ["result", "namespace"] =
      decision.namespace?.map .str := by
  cases decision <;> rfl

theorem stubs_resolvedMessage (rules : Resolution.Rules) (id : Json) :
    Stubs rules
      (resolvedMessage id (Resolution.Decision.stubbed rules.stubPath rules.stubNamespace).toHook none) :=
  ⟨rfl, rfl, rfl⟩

theorem under_loadedMessage (id result : Json) : (loadedMessage id result).under ["result"] = some result :=
  rfl

theorem contents_of_policy (policy : s.policy = some p) (message : List (String × Json)) :
    s.contents message =
      if textMember "namespace" message = p.rules.stubNamespace then .obj [("contents", .str "")]
      else .null := by
  have named : ((message.lookup "namespace").getD (.str "")).text = textMember "namespace" message := by
    unfold textMember
    cases message.lookup "namespace" <;> rfl
  simp only [contents, policy, Resolution.Policy.load, named]

/-- The response to one item goes by the namespace of the stubs. -/
theorem turn_agrees (policy : s.policy = some p)
    (host : ∀ path, p.rules.isHost path = true ↔ OfHost path) (expected : s.expectsItem item = true) :
    (s.turn item).Agrees p.rules := by
  refine ⟨fun message (h : item.message? = _) => ?_, fun message (h : item.message? = _) => ?_,
    fun (unasked : item.asked = none) => ?_⟩
  · have fits := expects_of_message h expected
    have stubbed (hosted : OfHost (textMember "path" message)) : p.resolve s.tree (.ofMembers message) =
        .ok (.stubbed p.rules.stubPath p.rules.stubNamespace) :=
      Resolution.resolve_host ((host (textMember "path" message)).mpr hosted)
    have other (hosted : ¬ OfHost (textMember "path" message)) :
        p.rules.isHost (textMember "path" message) = false := by
      rwa [Bool.eq_false_iff, ne_eq, host (textMember "path" message)]
    rw [turn, respond_of_message h, responseTo_resolve]
    generalize responded : s.resolving message = x
    cases responded ▸ resolving_of_policy policy fits with
    | decided decision resolved =>
      refine ⟨_, rfl, ?_⟩
      split <;> rename_i hosted
      · obtain rfl := Except.ok.inj (resolved.symm.trans (stubbed hosted))
        exact stubs_resolvedMessage ..
      · rw [under_resolvedMessage, Resolution.Policy.namespace?_of_resolve (other hosted) resolved]
        rfl
    | unresolved text resolved =>
      refine ⟨_, rfl, ?_⟩
      split <;> rename_i hosted
      · cases resolved.symm.trans (stubbed hosted)
      · rfl
  · rw [turn, respond_of_message h, responseTo_load]
    refine ⟨_, rfl, ?_⟩
    rw [under_loadedMessage, contents_of_policy policy]
  · have replied := heading_reply expected
    rw [unasked, Option.map_eq_none_iff] at replied
    exact replied

/-- A conversation about a server bundle whose stubs have a namespace of their own. -/
def stubbing : Session where
  label := "server"
  level := .info
  policy := some { cwd := .ofString "/app", rules := { stubNamespace := "void", stubPath := "void.js" } }
  onRebuild rebuild := [.rebuilt rebuild]
  tree := { top := .dir [] }

/-- An import of the host and the load that follows from it, and a load elsewhere after the result. -/
def stubbedItems : List Item := [
  .line "\x7b\"type\":\"resolve\",\"id\":1,\"path\":\"@citizenfx/a\"\x7d",
  .line "\x7b\"type\":\"load\",\"id\":2,\"namespace\":\"void\"\x7d",
  .line "\x7b\"type\":\"result\"\x7d",
  .line "\x7b\"type\":\"load\",\"id\":3,\"namespace\":\"file\"\x7d"]

end Session
end Bridge
end BundleForge
