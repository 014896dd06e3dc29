import TextAdventure.Proofs.Turn.Course
import TextAdventure.Proofs.Turn.Likeness

/-!
# Turns in progress and their images

A turn in progress over a shared store has an image in the store in which its player is alone: a run
that asks alike and that ends as the turn ends if it is played there from the beginning
(`Setting.InHand`). Each step of the turn is one of the image, and queries of other players do not
disturb it.
-/

namespace TextAdventure

namespace Setting

variable {s : Setting} {key : TurnKey}

/-- A turn in progress over a shared store, which has handed out nothing yet, with its image in the
store in which its player is alone; the turn `t` was begun there in the store `before`. -/
inductive InHand (s : Setting) (key : TurnKey) (t : Turn) (before st : Store) (x : Run) : Prop
  | mk {past : History} {x' : Run} {alone : Store} {ids : Option (Int × Int)}
    (always : x.Always (s.Ends key.username key.map) past) (quiet : past.Quiet)
    (alike : x.Alike key (fun _ => Run.EndsSame) ids x') (mirrors : st.Mirrors key alone ids)
    (result : (x'.run Store.backend alone).1 = ((s.play t).run Store.backend before).1)
    (store : (x'.run Store.backend alone).2.2 = ((s.play t).run Store.backend before).2.2)

namespace InHand

variable {t : Turn} {before st : Store} {x : Run}

/-- A turn that begins is in hand. -/
theorem start {ids : Option (Int × Int)} (h : st.Mirrors key before ids) (line : String) :
    s.InHand key (.start line key.username key.map) before st
      (s.play (.start line key.username key.map)) :=
  .mk (play_course line key.username key.map) History.quiet_nil (play_alike line key ids) h rfl rfl

/-- What keeps the mirrors of a store does not disturb a turn in hand. -/
theorem of_mirrors (h : s.InHand key t before st x) {st' : Store}
    (hmirrors : ∀ alone ids, st.Mirrors key alone ids → st'.Mirrors key alone ids) :
    s.InHand key t before st' x := by
  obtain ⟨always, quiet, alike, mirrors, result, store⟩ := h
  exact .mk always quiet alike (hmirrors _ _ mirrors) result store

/-- An answer keeps a turn in hand. -/
theorem answer {q : Query} {k : q.Answer → Run} (h : s.InHand key t before st (.ask q k))
    (hst : st.Identified) :
    s.InHand key t before (Store.answer q st).2 (k (Store.answer q st).1) ∧
      (Store.answer q st).2.Identified ∧ st.Spares key (Store.answer q st).2 := by
  obtain ⟨always, quiet, alike, mirrors, result, store⟩ := h
  obtain ⟨q', k', ids', rfl, alike', mirrors', hst', hspares⟩ := alike.answer hst mirrors
  exact ⟨.mk (always _) (by simpa using quiet) alike' mirrors' result store, hst', hspares⟩

/-- Going on to the next query keeps a turn in hand, and hands out nothing. -/
theorem advance_ask (h : s.InHand key t before st x) (hs : s.Usable) {ns : List Note} {q : Query}
    {k : q.Answer → Run} (hx : x.advance = (ns, .ask q k)) :
    s.InHand key t before st (.ask q k) ∧ History.replied (ns.map .noted) = [] := by
  obtain ⟨always, quiet, alike, mirrors, result, store⟩ := h
  rename_i past x' alone ids
  have halways := always.advance
  have halike := alike.advance
  rw [hx] at halways halike
  obtain ⟨answer⟩ := (inferInstance : Nonempty q.Answer)
  obtain ⟨g, ⟨u, halt⟩, hends⟩ := (halways answer).exists_history
  have hquiet : History.Quiet (past ++ ns.map .noted) := by
    match halt, hends with
    | some _, hends => exact absurd hs hends
    | none, .inl hu =>
      obtain ⟨before, hbefore, hq⟩ := hu.ending
      exact History.quiet_of_append_asked hbefore hq
    | none, .inr hu =>
      obtain ⟨before, hbefore, hq⟩ := hu.ending
      have hending : _ = before ++ [Note.completed].map Happening.noted := hbefore
      exact History.quiet_of_append_asked hending hq
  obtain ⟨hresult, hstore⟩ := Script.run_advance Store.backend x' alone
  exact ⟨.mk halways hquiet halike mirrors (hresult.trans result) (hstore.trans store),
    (History.quiet_append.1 hquiet).2.replied_eq⟩

/-- A turn in hand that comes to its end has handed out its replies, and ends as its image. -/
theorem advance_done (h : s.InHand key t before st x) (hs : s.Usable) {ns : List Note} {u : Turn}
    {halt : Option Halt} (hx : x.advance = (ns, .done (u, halt))) :
    halt = none ∧ History.replied (ns.map .noted) = u.replies ∧
      Run.EndsSame (u, none) ((s.play t).run Store.backend before).1 ∧
      ∃ ids, st.Mirrors key ((s.play t).run Store.backend before).2.2 ids := by
  obtain ⟨always, quiet, alike, mirrors, result, store⟩ := h
  rename_i past x' alone ids
  have halways : s.Ends key.username key.map (past ++ ns.map .noted) (u, halt) := by
    have := always.advance
    rwa [hx] at this
  have halike := alike.advance
  rw [hx] at halike
  obtain ⟨hresult, hstore⟩ := Script.run_advance Store.backend x' alone
  have hreplied : History.replied (past ++ ns.map .noted) = History.replied (ns.map .noted) := by
    rw [History.replied_append, quiet.replied_eq, List.nil_append]
  match halt, halways with
  | some _, hends => exact absurd hs hends
  | none, hends =>
    have hreplies : History.replied (ns.map .noted) = u.replies := by
      rw [← hreplied]
      rcases hends with hu | hu
      · obtain ⟨before, hbefore, hq⟩ := hu.ending
        rw [hbefore, History.replied_append, hq.replied_eq, History.replied_handedOut]
        rfl
      · obtain ⟨before, hbefore, hq⟩ := hu.ending
        rw [hbefore, History.replied_append, hq.replied_eq, hu.replies]
        rfl
    generalize x'.advance.2 = y at halike hresult hstore
    cases halike with
    | done hsame =>
      rw [← result, ← store, ← hresult, ← hstore]
      exact ⟨rfl, hreplies, hsame, ids, mirrors⟩

end InHand

end Setting

end TextAdventure
