import MacConsent.Proofs.Document.RoundTrip

/-!
# MacConsent.Proofs.Document.Tidy

Profiles that a document keeps whole: no blanks at the ends of the name and of
the passphrase, and no empty passphrase.  A reader trims every value before it
gives it to a draft, so whatever document it accepts, the profiles that it
reads are tidy (`tidy_of_read`).  Tidy profiles read back as they were written
(`read_write_of_tidy`).
-/

namespace MacConsent

/-! ## profiles that a document keeps whole -/

/-- A profile whose name and passphrase have no blanks at their ends; a passphrase is not
empty. -/
def Profile.Tidy (p : Profile) : Prop :=
  Text.trimmed p.ssid = p.ssid ∧ ∀ k ∈ p.passphrase, k ≠ "" ∧ Text.trimmed k = k

theorem Profile.keptPassphrase_eq_self_iff (passphrase : Option String) :
    keptPassphrase passphrase = passphrase ↔
      ∀ k ∈ passphrase, k ≠ "" ∧ Text.trimmed k = k := by
  cases passphrase with
  | none => simp [keptPassphrase]
  | some k =>
      rw [keptPassphrase]
      constructor
      · intro h
        split at h
        · cases h
        · next hk =>
            have htrim : Text.trimmed k = k := Option.some.inj h
            rintro _ ⟨⟩
            exact ⟨htrim ▸ hk, htrim⟩
      · intro h
        obtain ⟨hne, htrim⟩ := h k rfl
        rw [htrim, if_neg hne]

/-- A document keeps exactly the tidy profiles whole. -/
theorem Profile.kept_eq_self_iff (p : Profile) : p.kept = p ↔ p.Tidy := by
  rw [Profile.Tidy, ← Profile.keptPassphrase_eq_self_iff]
  constructor
  · intro h
    exact ⟨congrArg Profile.ssid h, congrArg Profile.passphrase h⟩
  · rintro ⟨hssid, hpassphrase⟩
    rw [Profile.kept, hssid, hpassphrase]

namespace Document

/-! ## what a reader gathers -/

/-- A draft of a tidy profile. -/
structure Draft.Tidy (d : Draft) : Prop where
  ssid : ∀ s ∈ d.ssid, Text.trimmed s = s
  passphrase : ∀ k ∈ d.passphrase, k ≠ "" ∧ Text.trimmed k = k

/-- Nothing has been gathered yet. -/
theorem Draft.tidy_empty : Draft.Tidy {} := ⟨fun _ h => (nomatch h), fun _ h => (nomatch h)⟩

/-- A draft takes trimmed values, and no empty passphrase. -/
theorem Draft.Tidy.set {d d' : Draft} (h : d.Tidy) {field : Field} {text : String}
    (hset : d.set field (Text.trimmed text) = .ok d') : d'.Tidy := by
  cases field with
  | id =>
      simp only [Draft.set] at hset
      split at hset
      · cases hset; exact ⟨h.ssid, h.passphrase⟩
      · cases hset
  | name =>
      cases hset
      exact ⟨by rintro _ ⟨⟩; exact Text.trimmed_trimmed text, h.passphrase⟩
  | authentication =>
      simp only [Draft.set] at hset
      split at hset
      · cases hset; exact ⟨h.ssid, h.passphrase⟩
      · cases hset
  | passphrase =>
      simp only [Draft.set, Except.ok.injEq] at hset
      split at hset
      · exact hset ▸ h
      · next hne =>
          rw [← hset]
          exact ⟨h.ssid, by rintro _ ⟨⟩; exact ⟨hne, Text.trimmed_trimmed text⟩⟩
  | hidden => cases hset; exact ⟨h.ssid, h.passphrase⟩
  | mode => cases hset; exact ⟨h.ssid, h.passphrase⟩
  | randomization => cases hset; exact ⟨h.ssid, h.passphrase⟩

theorem Draft.Tidy.profile? {d : Draft} (h : d.Tidy) {p : Profile} (hp : d.profile? = .ok p) :
    p.Tidy := by
  unfold Draft.profile? at hp
  split at hp
  · cases hp
  · cases hp
  · cases hp
  · next id ssid security _ hssid _ =>
      cases hp
      exact ⟨h.ssid ssid hssid, h.passphrase⟩

/-- A reader that has gathered tidy profiles only. -/
structure Reader.Tidy (r : Reader) : Prop where
  draft : ∀ d ∈ r.draft, d.Tidy
  done : ∀ p ∈ r.done, p.Tidy

theorem Reader.Tidy.finish {r r' : Reader} (h : r.Tidy) (hfinish : r.finish = .ok r') :
    r'.Tidy := by
  obtain rfl | ⟨d, p, hd, hp, rfl⟩ := Reader.finish_cases hfinish
  · exact h
  · refine ⟨fun _ hd => (nomatch hd), fun q hq => ?_⟩
    rcases List.mem_cons.1 hq with rfl | hq
    · exact (h.draft d hd).profile? hp
    · exact h.done q hq

theorem Reader.Tidy.take {r r' : Reader} (h : r.Tidy) {leaf : String}
    (htake : r.take leaf = .ok r') : r'.Tidy := by
  obtain rfl | ⟨d, field, d', hd, hset, rfl⟩ := Reader.take_cases htake
  · exact h
  · refine ⟨?_, h.done⟩
    rintro _ ⟨⟩
    exact (h.draft d hd).set hset

theorem Reader.Tidy.leave {r r' : Reader} (h : r.Tidy) (hleave : r.leave = .ok r') : r'.Tidy := by
  obtain ⟨leaf, outer, behind, -, rfl, hafter⟩ := Reader.leave_cases hleave
  have houter : Reader.Tidy { r with path := outer } := ⟨h.draft, h.done⟩
  have htidy : behind.Tidy := hafter.elim houter.finish houter.take
  exact ⟨htidy.draft, htidy.done⟩

/-- What a reader has gathered stays tidy, whatever comes next. -/
theorem Reader.Tidy.step {r r' : Reader} (h : r.Tidy) {e : Markup.Event}
    (hstep : r.step e = .ok r') : r'.Tidy := by
  cases e with
  | opened name =>
      cases hstep
      refine ⟨fun d hd => ?_, h.done⟩
      simp only [Reader.enter] at hd
      split at hd
      · cases hd; exact Draft.tidy_empty
      · exact h.draft d hd
  | text content => cases hstep; exact ⟨h.draft, h.done⟩
  | reference name =>
      obtain ⟨c, -, rfl⟩ := map_eq_ok hstep
      exact ⟨h.draft, h.done⟩
  | closed name => exact h.leave (mapError_eq_ok hstep)
  | ignored => cases hstep; exact h

theorem Reader.Tidy.run {r r' : Reader} (h : r.Tidy) {es : List Markup.Event}
    (hrun : r.run es = .ok r') : r'.Tidy := by
  induction es generalizing r with
  | nil => cases hrun; exact h
  | cons e es ih =>
      rw [Reader.run] at hrun
      split at hrun
      · cases hrun
      · next hstep => exact ih (h.step hstep) hrun

/-- **Whatever is read is tidy.** -/
theorem tidy_of_read {document : String} {ps : List Profile} (h : read document = .ok ps) :
    ∀ p ∈ ps, p.Tidy := by
  unfold read at h
  simp only at h
  split at h
  · cases h
  · next r hrun =>
      split at h
      · cases h
      · cases h
        have hempty : Reader.Tidy {} := ⟨fun _ h => (nomatch h), fun _ h => (nomatch h)⟩
        exact fun p hp => (hempty.run hrun).done p (List.mem_reverse.1 hp)

/-- **Tidy profiles read back as they were written.** -/
theorem read_write_of_tidy {ps : List Profile} (h : ∀ p ∈ ps, p.Tidy) :
    read (write ps) = .ok ps := by
  rw [read_write, List.map_congr_left fun p hp => (Profile.kept_eq_self_iff p).2 (h p hp)]
  exact congrArg Except.ok (List.map_id ps)

end Document

end MacConsent
