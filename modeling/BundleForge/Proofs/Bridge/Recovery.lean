import BundleForge.Proofs.Bridge.Replies
import BundleForge.Proofs.Except

/-!
What a listener survives. Main statement: it goes on after every message and every line that is none, each
dealt with once and in order, up to the end of the items, to a reading that fails, to a reply that cannot be
written or to a line too deep inside itself to be read; the last of these it does not survive in good order.
-/

namespace BundleForge

namespace Bridge

/-- Reading an item fails with a text: the reading itself does, or the line has a number with too many
digits. -/
inductive Item.Raises : Item → String → Prop
  | broken (text : String) : Raises (.broken text) text
  | unreadable (text : String) : Raises (.unreadable text) text
  | undecodable (refusal : Text.Utf8.Refusal) : Raises (.undecodable refusal) refusal.message
  | overlong {text : String} {fault : Number.IntegerFault} (read : readMessage text = .error (.integer fault)) :
      Raises (.line text) fault.message

/-- A malformed line is told of as it is. -/
theorem malformed_line {text line : String} (h : readMessage text = .error (.malformed line)) : text = line := by
  unfold readMessage at h
  split at h
  · exact LineFault.malformed.inj (Except.error.inj h)
  · cases h
  · cases h
  · split at h
    · cases h
    · exact LineFault.malformed.inj (Except.error.inj h)
  · exact LineFault.malformed.inj (Except.error.inj h)

namespace Session

variable {s : Session} {w : Wire} {item : Item} {message : List (String × Json)} {kind : Json}

/-- Nothing, or a line of the lowest severity. -/
def Notes (s : Session) (events : List Event) : Prop := events = [] ∨ ∃ text, events = s.line .debug text

/-- What a listener leaves behind of an item that it goes on after. A request has its reply; a rebuild is
handed on with the errors and warnings of its message; an error of the bundler and a line that is no message
are told with one line; and neither a result nor a message of no known type comes to anything. -/
inductive Heeds (s : Session) : Item → List Event → Prop
  | answered {item : Item} {notes : List Event} {reply : Json} (asked : item.asked = some (heading reply))
      (quiet : s.Notes notes) : Heeds s item (notes ++ [.sent reply])
  | rebuilt {item : Item} {message : List (String × Json)} {rebuild : Rebuild}
      (sort : item.message? = some (message, .str "rebuild"))
      (errors : listMember "errors" message = .ok rebuild.errors)
      (warnings : listMember "warnings" message = .ok rebuild.warnings) : Heeds s item (s.onRebuild rebuild)
  | reported {item : Item} {message : List (String × Json)} {text : String} {errors : List Json}
      (sort : item.message? = some (message, .str "error"))
      (told : errorOf message = .ok (.bundler text errors)) :
      Heeds s item (s.line .error ("Watch session error: " ++ text))
  | malformed {text : String} (read : readMessage text = .error (.malformed text)) :
      Heeds s (.line text) (s.line .error ("Watch session error: " ++ malformedText text))
  | resulted {item : Item} {message : List (String × Json)} (sort : item.message? = some (message, .str "result")) :
      Heeds s item []
  | ignored {item : Item} {message : List (String × Json)} {kind : Json} {notes : List Event}
      (sort : item.message? = some (message, kind))
      (other : ∀ word ∈ ["resolve", "load", "rebuild", "result", "error"], kind ≠ .str word)
      (quiet : s.Notes notes) : Heeds s item notes

theorem notes_of_reply {reply : Json} (h : (s.respond item).reply = some reply) :
    s.Notes (s.respond item).told ∧ (s.respond item).comes = .ok none := by
  unfold respond at h ⊢
  split at h
  · cases h
  · cases h
  · cases h
  · split at h
    · unfold responseTo at h ⊢
      split at h
      · unfold resolving at h ⊢
        split at h
        · exact ⟨.inl rfl, rfl⟩
        · dsimp only at h ⊢
          split at h
          · exact ⟨.inr ⟨_, rfl⟩, rfl⟩
          · exact ⟨.inl rfl, rfl⟩
          · cases h
      · exact ⟨.inl rfl, rfl⟩
      · split at h <;> cases h
      · cases h
      · cases h
      · cases h
    · cases h

/-- A message whose members fit is heeded. -/
theorem heeds_of_message (h : item.message? = some (message, kind)) (expected : s.expectsItem item = true) :
    (s.respond item).Survived ∧ s.Heeds item (s.deeds item) := by
  have fits := expects_of_message h expected
  by_cases asks : ∃ reply, (s.respond item).reply = some reply
  · obtain ⟨reply, hr⟩ := asks
    obtain ⟨quiet, comes⟩ := notes_of_reply hr
    have asked : item.asked = some (heading reply) := by rw [← heading_reply expected, hr, Option.map_some]
    refine ⟨fun fault h => by simp [comes] at h, ?_⟩
    have left : s.deeds item = (s.respond item).told ++ [.sent reply] := by
      simp [deeds, Response.events, complaints, hr, comes]
    rw [left]
    exact .answered asked quiet
  have unanswered : (s.respond item).reply = none := by simpa [Option.eq_none_iff_forall_ne_some] using asks
  have unasked : item.asked = none := by rw [← heading_reply expected, unanswered, Option.map_none]
  rw [deeds, respond_of_message h]
  unfold responseTo
  split
  · simp [Item.asked, h, askedBy] at unasked
  · simp [Item.asked, h, askedBy] at unasked
  · have handed : Fits (s.expects message (.str "rebuild")) _ := fits_rebuildOf message
    rw [fits] at handed
    obtain ⟨rebuild, hr⟩ := handed
    obtain ⟨errors, he, later⟩ := bind_eq_ok.mp hr
    obtain ⟨warnings, hw, made⟩ := bind_eq_ok.mp later
    obtain rfl : Rebuild.mk errors warnings = rebuild := Except.ok.inj made
    rw [hr]
    refine ⟨fun fault h => (by simp at h), ?_⟩
    simpa [Response.events, complaints] using Heeds.rebuilt h he hw
  · have brought : Fits (s.expects message (.str "result")) _ := fits_outcomeOf message
    rw [fits] at brought
    obtain ⟨outcome, ho⟩ := brought
    rw [ho]
    refine ⟨fun fault h => (by simp [fitted, Except.map] at h), ?_⟩
    simpa [Response.events, complaints, fitted, Except.map] using Heeds.resulted h
  · have told : Fits (s.expects message (.str "error")) _ := fits_errorOf message
    rw [fits] at told
    obtain ⟨fault, hf⟩ := told
    obtain ⟨text, errors, rfl⟩ := errorOf_eq_ok hf
    have comes : fitted (errorOf message) >>= Except.error =
        (.error (.bundler text errors) : Except Fault (Option Outcome)) := by
      rw [hf]
      rfl
    rw [comes]
    refine ⟨fun fault h => ?_, ?_⟩
    · obtain rfl := Except.error.inj h
      rfl
    · simpa [Response.events, complaints, complaint, Fault.course, Fault.message] using Heeds.reported h hf
  · rename_i resolve load rebuild result error
    refine ⟨fun fault h => (by simp at h), ?_⟩
    have other : ∀ word ∈ ["resolve", "load", "rebuild", "result", "error"], kind ≠ .str word := by
      simpa using ⟨resolve, load, rebuild, result, error⟩
    simpa [Response.events, complaints, line] using Heeds.ignored h other (.inr ⟨_, rfl⟩)

/-- What an item that is expected comes to. -/
inductive Regarded (s : Session) (item : Item) : Prop
  | heeded (survived : (s.respond item).Survived) (heeds : s.Heeds item (s.deeds item))
  | raised (fault : Fault) (responds : s.respond item = { comes := .error fault }) (course : fault.course = .ends)
      (raises : item.Raises fault.message)
  | deep (text : String) (line : item = .line text) (read : readMessage text = .error .tooDeep)
      (responds : s.respond item = { comes := .error (.misfit .tooDeep) })

theorem regarded (expected : s.expectsItem item = true) : s.Regarded item := by
  cases item with
  | broken text => exact .raised (.system (.reported text)) rfl rfl (.broken text)
  | unreadable text => exact .raised (.reading text) rfl rfl (.unreadable text)
  | undecodable refusal => exact .raised (.undecodable refusal) rfl rfl (.undecodable refusal)
  | line text =>
    cases read : readMessage text with
    | ok m =>
      have sort : (Item.line text).message? = some (m.1, m.2) := by simp [Item.message?, read, Except.toOption]
      obtain ⟨survived, heeds⟩ := heeds_of_message sort expected
      exact .heeded survived heeds
    | error fault =>
      have responds : s.respond (.line text) = { comes := .error (.ofLine fault) } := by simp only [respond, read]
      cases fault with
      | malformed line =>
        obtain rfl : text = line := malformed_line read
        refine .heeded (fun fault h => ?_) ?_
        · rw [responds] at h
          obtain rfl := Except.error.inj h
          rfl
        · rw [deeds, responds]
          simpa [Response.events, complaints, complaint, Fault.ofLine, Fault.course, Fault.message] using
            Heeds.malformed read
      | tooDeep => exact .deep text rfl read responds
      | integer fault => exact .raised (.integer fault) responds rfl (.overlong read)

/-- How a listener comes to its end once it has answered some requests, given the items that it has not gone on
after: what it leaves behind there, which items it does not read, and what it comes to. -/
inductive Closes (s : Session) (w : Wire) (answered : Nat) :
    List Item → List Event → List Item → Except Fault Unit → Prop
  | exhausted : Closes s w answered [] [] [] (.ok ())
  | raised {item : Item} {rest : List Item} {text : String} (raises : item.Raises text) :
      Closes s w answered (item :: rest) (.read :: s.line .error ("Watch session closed: " ++ text)) rest (.ok ())
  | refused {item : Item} {rest : List Item} {notes : List Event} (asks : item.asked.isSome = true)
      (spent : w.writesLeft = some answered) (quiet : s.Notes notes) :
      Closes s w answered (item :: rest)
        (.read :: (notes ++ s.line .error ("Watch session closed: " ++ w.writeFault.message))) rest (.ok ())
  | lost {text : String} {rest : List Item} (deep : readMessage text = .error .tooDeep) :
      Closes s w answered (.line text :: rest) [.read] rest (.error (.misfit .tooDeep))

/-- How many of the items ask for a reply. -/
def asking (items : List Item) : Nat := items.countP fun item => item.asked.isSome

theorem replyCount_eq_asking {items : List Item} (expected : ∀ item ∈ items, s.expectsItem item = true) :
    s.replyCount items = asking items := by
  refine List.countP_congr fun item among => ?_
  rw [← heading_reply (expected item among), Option.isSome_map]

/-- The end of a listener whose items are expected. -/
theorem Listened.closes {items rest : List Item} {done : Done Fault Wire Unit}
    (passed : s.Passed Response.Survived w items)
    (expected : ∀ item ∈ items ++ rest, s.expectsItem item = true) (ends : s.Listened (s.past w items rest) rest done) :
    s.Closes w (asking items) rest done.events done.state.unread done.result := by
  have fits {item : Item} {others : List Item} (h : rest = item :: others) : s.expectsItem item = true :=
    expected item (by simp [h])
  cases ends with
  | exhausted => exact .exhausted
  | refused h =>
    obtain ⟨replied, spent⟩ := h
    obtain ⟨reply, hr⟩ := Option.isSome_iff_exists.mp replied
    obtain ⟨count, left, none_left⟩ := Option.map_eq_some_iff.mp spent
    have bound := passed.written count left
    have last : w.writesLeft = some (asking items) := by
      rw [← replyCount_eq_asking fun item among => expected item (List.mem_append_left _ among), left]
      exact congrArg some (by omega)
    refine .refused ?_ last (notes_of_reply hr).1
    rw [← heading_reply (fits rfl), Option.isSome_map, replied]
  | ended h comes course =>
    cases regarded (fits rfl) with
    | heeded survived => simp [survived _ comes] at course
    | raised fault responds _ raises =>
      obtain rfl : fault = _ := Except.error.inj (by rw [← comes, responds])
      rw [marks, deeds, responds]
      simpa [Response.events, complaints, complaint, course] using Closes.raised raises
    | deep text line read responds =>
      obtain rfl : _ = Fault.misfit .tooDeep := Except.error.inj (by rw [← comes, responds])
      simp [Fault.course, Misfit.sort] at course
  | lost h comes course =>
    cases regarded (fits rfl) with
    | heeded survived => simp [survived _ comes] at course
    | raised fault responds ends =>
      obtain rfl : fault = _ := Except.error.inj (by rw [← comes, responds])
      simp [ends] at course
    | deep text line read responds =>
      obtain rfl : _ = Fault.misfit .tooDeep := Except.error.inj (by rw [← comes, responds])
      subst line
      rw [marks, deeds, responds]
      simpa [Response.events, complaints, complaint, course] using Closes.lost read

/-- Two rebuilds with a line that is no message and an error between them, and one after the bundler is gone. -/
def watchedItems : List Item := [
  .line "\x7b\"type\":\"rebuild\",\"warnings\":[0]\x7d",
  .line "no message",
  .line "\x7b\"type\":\"error\"\x7d",
  .line "\x7b\"type\":\"load\",\"id\":1\x7d",
  .line "\x7b\"type\":\"rebuild\",\"errors\":[0]\x7d",
  .broken "the bundler is gone",
  .line "\x7b\"type\":\"rebuild\"\x7d"]

end Session
end Bridge

/-! Lines that are too deep: a listener is lost at one of nothing but brackets, if there are enough. -/

namespace Json

theorem skipSpace_brackets (n : Nat) : skipSpace (List.replicate n '[') = List.replicate n '[' := by
  cases n <;> simp [skipSpace, isSpace, List.replicate_succ]

/-- As many brackets as arrays may lie in one another, and one more, are too deep, whatever would follow. -/
theorem readValue_brackets (depth more fuel : Nat) :
    readValue (fuel + 2 * depth + 1) depth (List.replicate (depth + more + 1) '[') = .error .tooDeep := by
  induction depth with
  | zero => simp [readValue, List.replicate_succ, Text.doubleQuote]
  | succ depth ih =>
    have items : readItems (fuel + 2 * (depth + 1)) depth (List.replicate (depth + more + 1) '[') =
        .error .tooDeep := by
      rw [show fuel + 2 * (depth + 1) = fuel + 2 * depth + 1 + 1 by omega, readItems, ih]
    rw [show depth + 1 + more + 1 = (depth + more + 1) + 1 by omega, List.replicate_succ, readValue,
      if_neg (by decide), if_pos rfl, if_neg (by omega), skipSpace_brackets]
    split <;> rename_i h
    · simp [List.replicate_succ] at h
    · rw [Nat.add_sub_cancel, items]

theorem read_brackets {n : Nat} (h : depthLimit < n) :
    read (String.ofList (List.replicate n '[')) = .error .tooDeep := by
  obtain ⟨more, rfl⟩ := Nat.exists_eq_add_of_lt h
  unfold read
  dsimp only
  rw [String.toList_ofList, skipSpace_brackets, List.length_replicate,
    show 2 * (depthLimit + more + 1) + 2 = (2 * more + 3) + 2 * depthLimit + 1 by omega, readValue_brackets]

end Json

/-- A listener reads nothing after such a line, and puts nothing down. -/
theorem Bridge.Session.listen_lost {s : Session} {w : Wire} {rest : List Item} {n : Nat} (deep : Json.depthLimit < n)
    (unread : w.unread = .line (String.ofList (List.replicate n '[')) :: rest) :
    s.listen.run w = ⟨.error (.misfit .tooDeep), { w with unread := rest }, [.read]⟩ := by
  have read : readMessage (String.ofList (List.replicate n '[')) = .error .tooDeep := by
    rw [readMessage, Json.read_brackets deep]
  have responds : s.respond (.line (String.ofList (List.replicate n '['))) =
      { comes := .error (.misfit .tooDeep) } := by simp only [respond, read, Fault.ofLine]
  have heard : (s.hear (.line (String.ofList (List.replicate n '[')))).run { w with unread := rest } =
      ⟨.error (.misfit .tooDeep), { w with unread := rest }, []⟩ := by
    rw [run_hear, responds, Response.on_silent]
    rfl
  rw [run_listen, unread, run_listenTo_lost heard]

end BundleForge
