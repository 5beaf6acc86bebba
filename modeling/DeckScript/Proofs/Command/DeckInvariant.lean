import DeckScript.Proofs.Command.Requests

/-!
# What stays true of the deck

In a session without failures the ids of the slides stay distinct, at most one slide
is active, and the overview stays in front, in the store and in all snapshots.

The three depend on each other: a slide is deleted by making its id active and then
removing the first active slide, so it is because ids are distinct that the slide
removed is the one asked for and never the overview.
-/

namespace DeckScript

/-- Ids are distinct, at most one slide is active, and the slide in front is the one that is in
front in `origin`, if there is one. -/
structure Deck.Sound (origin deck : Deck) : Prop where
  ids_nodup : deck.ids.Nodup
  activeCount_le : deck.activeCount ≤ 1
  overview : ∀ id, origin.ids.head? = some id → deck.ids.head? = some id

namespace Deck.Sound

variable {origin deck : Deck}

/-- Changes of a deck that leave ids and flags alone. -/
theorem of_eq {after : Deck} (sound : origin.Sound deck) (hids : after.ids = deck.ids)
    (hactive : after.activeCount = deck.activeCount) : origin.Sound after where
  ids_nodup := hids ▸ sound.ids_nodup
  activeCount_le := hactive ▸ sound.activeCount_le
  overview := hids ▸ sound.overview

theorem append (sound : origin.Sound deck) {slide : Slide} (hfresh : slide.id ∉ deck.ids)
    (hactive : slide.active = false) : origin.Sound (deck ++ [slide]) where
  ids_nodup := by
    rw [ids_append, ← List.concat_eq_append]
    exact sound.ids_nodup.concat hfresh
  activeCount_le := by
    rw [activeCount_append deck hactive]
    exact sound.activeCount_le
  overview := by
    intro id hid
    rw [ids_append, List.head?_append, sound.overview id hid]
    rfl

theorem activate (sound : origin.Sound deck) (id : String) :
    origin.Sound (deck.activate id) where
  ids_nodup := by
    rw [ids_activate]
    exact sound.ids_nodup
  activeCount_le := by
    rw [activeCount_activate]
    exact List.nodup_iff_count.1 sound.ids_nodup id
  overview := by
    rw [ids_activate]
    exact sound.overview

theorem deleteAt (sound : origin.Sound deck) {index : Nat}
    (hactive : deck.activeIndex? = some index) (hpos : 0 < index) :
    origin.Sound (deck.deleteAt index) where
  ids_nodup := by
    rw [ids_deleteAt]
    exact sound.ids_nodup.eraseIdx index
  activeCount_le := activeCount_deleteAt_le sound.activeCount_le hactive
  overview := by
    intro id hid
    have hfirst := sound.overview id hid
    rw [ids_deleteAt]
    -- the first id survives, since another one is erased
    obtain ⟨index, rfl⟩ := Nat.exists_eq_add_one.2 hpos
    cases hids : deck.ids with
    | nil =>
      rw [hids] at hfirst
      cases hfirst
    | cons first rest =>
      rw [hids] at hfirst
      exact hfirst

end Deck.Sound

namespace Session

theorem Effect.sound {params : Params} {origin deck after : Deck} {command : Command}
    (effect : Effect params deck command after) (sound : origin.Sound deck) :
    origin.Sound after := by
  cases effect with
  | newSlide fresh inactive => exact sound.append fresh inactive
  | setSlideTitle given written decoded found =>
    exact sound.of_eq (Deck.ids_updateFirst deck _ fun _ => rfl)
      (Deck.activeCount_updateFirst deck _ fun _ => rfl)
  | addText given written decoded found =>
    exact sound.of_eq (Deck.ids_updateFirst deck _ fun _ => rfl)
      (Deck.activeCount_updateFirst deck _ fun _ => rfl)
  | @deleteSlide position index slide rest decoded ordinary found deleted =>
    -- ids are distinct, so the slide found is the only one that is made active
    obtain ⟨rfl, hslide⟩ := slideAt?_eq_some.1 found
    have hactive := Deck.activeIndex?_activate sound.ids_nodup hslide
    have hpos : 0 < index := by
      rcases Nat.eq_zero_or_pos index with rfl | hpos
      · exact absurd rfl ordinary
      · exact hpos
    cases deleted.symm.trans (Deck.apply_deleteActive hactive)
    exact (sound.activate slide.id).deleteAt hactive hpos
  | duplicateSlide given decoded found fresh => exact sound.append fresh rfl
  | gotoSlide given decoded found => exact sound.activate _
  | question h => exact sound

/-- The deck in the store and all snapshots are sound. -/
structure Sound (origin : Deck) (session : Session) : Prop where
  quiet : session.store.Quiet
  rooted : session.history.Rooted origin
  slides : origin.Sound session.store.slides
  snapshots : ∀ entry ∈ session.history.entries, origin.Sound entry.slides

namespace Sound

variable {origin : Deck} {session after : Session}

/-- Undo and redo bring back one of the snapshots. -/
theorem moves (sound : session.Sound origin) (quiet : after.store.Quiet)
    (h : session.history.Moves after.store.slides after.history) : after.Sound origin := by
  have hrooted := sound.rooted.moves h
  have hslides := sound.rooted.current?_of_moves h
  obtain ⟨entry, hentry, hsame⟩ := Option.map_eq_some_iff.1 hslides
  rw [← hrooted.getElem?_index] at hentry
  have hmem : entry ∈ session.history.entries := h.entries_eq ▸ List.mem_of_getElem? hentry
  refine ⟨quiet, hrooted, hsame ▸ sound.snapshots entry hmem, ?_⟩
  rw [h.entries_eq]
  exact sound.snapshots

theorem serve (sound : session.Sound origin) (request : Request) :
    (session.serve request).2.Sound origin := by
  obtain ⟨quiet, hcourse⟩ := serve_course sound.quiet request
  cases hcourse with
  | failed hfailed hslides hhistory hundo hredo =>
    exact ⟨quiet, hhistory ▸ sound.rooted, hslides ▸ sound.slides, hhistory ▸ sound.snapshots⟩
  | unrecorded command hcommand hdone hkeeps heffect hhistory =>
    exact ⟨quiet, hhistory ▸ sound.rooted, heffect.sound sound.slides,
      hhistory ▸ sound.snapshots⟩
  | recorded command hcommand hdone hchanges heffect hhistory =>
    have hslides := heffect.sound sound.slides
    refine ⟨quiet, hhistory ▸ sound.rooted.record _, hslides, ?_⟩
    rw [hhistory, History.record]
    intro entry hentry
    rcases List.mem_append.1 hentry with hold | hnew
    · exact sound.snapshots entry (List.mem_of_mem_take hold)
    · rw [List.mem_singleton.1 hnew]
      exact hslides
  | undone hcommand hdone hmove => exact sound.moves quiet (.inl hmove)
  | redone hcommand hdone hmove => exact sound.moves quiet (.inr hmove)

theorem serveAll (sound : session.Sound origin) (requests : List Request) :
    (session.serveAll requests).Sound origin := by
  induction requests generalizing session with
  | nil => exact sound
  | cons request rest ih => exact ih (sound.serve request)

end Sound

/-- On a deck with distinct ids and at most one active slide, no sequence of command lines, at
whatever times they are given, breaks this or takes the overview away, in the store or in any
snapshot. -/
theorem serveAll_keeps_sound (deck : Deck) (listeners : List Listener) (aliases : Table String)
    (idStem : String) (spacing : Int) (now : Number) (requests : List Request)
    (hids : deck.ids.Nodup) (hactive : deck.activeCount ≤ 1) :
    let after :=
      (opened { slides := deck, listeners } aliases idStem spacing now).serveAll requests
    ∀ slides ∈ after.store.slides :: after.history.entries.map HistoryEntry.slides,
      slides.ids.Nodup ∧ slides.activeCount ≤ 1 ∧
        ∀ id, deck.ids.head? = some id → slides.ids.head? = some id := by
  intro after
  have hdeck : deck.Sound deck := ⟨hids, hactive, fun _ h => h⟩
  have hopened : (opened { slides := deck, listeners } aliases idStem spacing now).Sound deck := by
    refine ⟨rfl, History.rooted_start deck, hdeck, ?_⟩
    intro entry hentry
    rw [List.mem_singleton.1 hentry]
    exact hdeck
  have hafter : after.Sound deck := hopened.serveAll requests
  intro slides hslides
  have hsound : deck.Sound slides := by
    rcases List.mem_cons.1 hslides with rfl | hsnapshot
    · exact hafter.slides
    · obtain ⟨entry, hentry, rfl⟩ := List.mem_map.1 hsnapshot
      exact hafter.snapshots entry hentry
  exact ⟨hsound.ids_nodup, hsound.activeCount_le, hsound.overview⟩

/-- A deck of two slides, with the second one active. -/
def overviewAndAgenda : Deck :=
  [{ id := "overview" }, { id := "agenda", active := true }]

/-- Slides are added while the clock stands still, one is deleted, and that is undone. -/
def stillClockRequests : List Request :=
  [⟨"new-slide slide=Intro", .int 1⟩, ⟨"duplicate-slide number=0", .int 1⟩,
   ⟨"delete-slide number=1", .int 0⟩, ⟨"undo", .int 0⟩]

theorem serveAll_keeps_sound_overviewAndAgenda :
    overviewAndAgenda.ids.Nodup ∧ overviewAndAgenda.activeCount ≤ 1 ∧
      ∀ slides ∈
        ((opened { slides := overviewAndAgenda, listeners := [] } .empty defaultStem defaultSpacing
          (.int 1)).serveAll stillClockRequests).store.slides ::
        ((opened { slides := overviewAndAgenda, listeners := [] } .empty defaultStem defaultSpacing
          (.int 1)).serveAll stillClockRequests).history.entries.map HistoryEntry.slides,
        slides.ids.Nodup ∧ slides.activeCount ≤ 1 ∧ slides.ids.head? = some "overview" := by
  have hids : overviewAndAgenda.ids.Nodup := by decide
  have hactive : overviewAndAgenda.activeCount ≤ 1 := by decide
  refine ⟨hids, hactive, ?_⟩
  intro slides hslides
  obtain ⟨hnodup, hcount, hoverview⟩ :=
    serveAll_keeps_sound overviewAndAgenda [] .empty defaultStem defaultSpacing (.int 1)
      stillClockRequests hids hactive slides hslides
  exact ⟨hnodup, hcount, hoverview "overview" rfl⟩

end Session

end DeckScript
