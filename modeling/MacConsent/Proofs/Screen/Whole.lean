import MacConsent.Proofs.Screen.Reach

/-!
# MacConsent.Proofs.Screen.Whole

When the message of a dialog is shown as a whole.  It is as long as it has at most one
row more than were counted (`message_shown`).  Columns and characters are not the same:
a message of wide characters takes twice as many rows as are counted, and loses its end
(`message_shown_wide`).
-/

namespace MacConsent.Screen

open Dialog (Form)

/-- Every glyph of a message that fills columns is shown at its place on a screen. -/
def ShownWhole (screen : Grid) (width height : Nat) (f : Form) : Prop :=
  ∀ i row before g after, (messageRows f)[i]? = some row → row = before ++ g :: after →
    0 < g.width →
      ShownAt screen g ((messageArea width height f).x + extent before)
        ((messageArea width height f).y + i)

/-- **A message is shown whole if it has at most one row more than were counted.**  Its area has
the room for that, and rows behind it are not drawn: no character of theirs is on the screen that is
not drawn elsewhere.  The rows hold the message but for blanks.  A narrow message has no more rows
than were counted; one of wide characters, or with blanks that stand together, may have.  With glyphs
of at most two columns the drawing does not fail. -/
theorem message_shown {width height : Nat} {f : Form} (h : Roomy width height f) :
    (messageArea width height f).width = 56 ∧
    (messageArea width height f).height = countedRows f + 1 ∧
    ink (messageRows f).flatten =
      ink ((messageLines f).flatten.filter fun g => decide (g.advance ≤ 56)) ∧
    ((messageRows f).take (messageArea width height f).height = messageRows f ↔
      (messageRows f).length ≤ countedRows f + 1) ∧
    (Slim f → width < positions → (titleColumns f.request.title.toList + 1) % positions ≠ 0 →
      ∃ screen, frame width height f = some screen) ∧
    (∀ screen, frame width height f = some screen →
      (Slim f → (messageRows f).length ≤ countedRows f + 1 → ShownWhole screen width height f) ∧
      ∀ row ∈ screen.shown, ∀ c ∈ row,
        c.DrawnFrom fun ch => DrawnAround width height f ch ∨ DrawnInside f ch) ∧
    ((∀ gs ∈ messageLines f, Narrow gs) → (messageRows f).length ≤ countedRows f) := by
  have harea := messageArea_eq h
  refine ⟨by rw [harea]; rfl, by rw [harea], ink_messageRows f, ?_, ?_, ?_,
    length_messageRows_le⟩
  · rw [harea, List.take_eq_self_iff]
  · intro hslim hrange htitle
    have hright := (centered_dialogBox width height f).right_le
    exact exists_frame_of_fills hrange htitle hslim.fills (by decide) (by decide) (by omega)
  · intro screen hframe
    refine ⟨fun hslim hfits i row before g after hrow hsplit hpos => ?_, drawnFrom_frame h hframe⟩
    have hi : i < (messageRows f).length := (List.getElem?_eq_some_iff.1 hrow).1
    exact shown_glyph h hslim hframe (by omega) hrow hsplit hpos

/-- A message of eighty-five characters of two columns each, of which the last is another. -/
def wideMessage : List Char := List.replicate 84 'あ' ++ ['い']

/-- A dialog with that message. -/
def wideForm : Form where
  request :=
    { title := "Wi-Fi"
      message := String.ofList wideMessage
      acceptText := "Yes"
      declineText := "No" }
  icons := .ascii

/-- Four rows, where two were counted and three are drawn: the last character is not shown. -/
theorem message_shown_wide :
    Roomy 60 24 wideForm ∧ countedRows wideForm = 2 ∧ (messageArea 60 24 wideForm).height = 3 ∧
      (messageRows wideForm).length = 4 ∧
      ∃ screen, frame 60 24 wideForm = some screen ∧
        ∀ row ∈ screen.shown, ∀ c ∈ row, 'い' ∉ c.symbol := by
  have hmessage : wideForm.request.message.toList = wideMessage := String.toList_ofList
  have hcount : countedRows wideForm = 2 := by
    rw [countedRows, hmessage]
    decide +kernel
  have hrows : (messageRows wideForm).length = 4 := by
    rw [messageRows, hmessage]
    decide +kernel
  have hroomy : Roomy 60 24 wideForm := ⟨by decide, by rw [hcount]; decide, by decide⟩
  have hslim : Slim wideForm := by
    rw [Slim, messageLines, hmessage]
    decide +kernel
  obtain ⟨_, hheight, _, _, hexists, hdrawn, _⟩ := message_shown hroomy
  obtain ⟨screen, hframe⟩ := hexists hslim (by decide) (by decide +kernel)
  refine ⟨hroomy, hcount, by rw [hheight, hcount], hrows, screen, hframe, fun row hrow c hc hlast => ?_⟩
  rcases (hdrawn screen hframe).2 row hrow c hc 'い' hlast with hblank | haround | hinside
  · revert hblank
    decide
  · obtain ⟨s, hs, htext⟩ := haround
    rw [popup_eq hroomy, footer, sections_eq hroomy, hcount] at hs
    have hnone : ∀ s ∈ edge 60 ⟨0, 7, 60, 9⟩ "Wi-Fi".toList ++
        (drawAligned .right ⟨2, 13, 56, 1⟩ (buttonRow wideForm) ++
          drawAligned .center ⟨2, 14, 56, 1⟩ (helpRow wideForm)),
        'い' ∉ s.mark.text := by decide +kernel
    exact hnone s hs htext
  · obtain ⟨row, hrow, g, hg, hsymbol⟩ := hinside
    rw [messageRows, hmessage, hcount] at hrow
    have hnone : ∀ row ∈ (wrapText messageWidth wideMessage {}).take 3, ∀ g ∈ row,
        'い' ∉ g.symbol := by decide +kernel
    exact hnone row hrow g hg hsymbol

end MacConsent.Screen
