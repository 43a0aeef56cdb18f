import BoardFilter.Post.Record
import BoardFilter.Proofs.Json.Records
import BoardFilter.Proofs.Number.Rounding
import BoardFilter.Proofs.Post.FlagText
import BoardFilter.Proofs.Text.Words

/-!
# Stored posts are read back

A post is read back from its record, however the record is rearranged. The tags
come back as the same set, with the same categories.
-/

namespace BoardFilter

namespace Json

theorem asNatBelow?_nat {limit : Nat} (n : Fin limit) : asNatBelow? limit (.nat n) = some n :=
  asNatBelow?_eq_some_iff.2 rfl

theorem asSigned?_int (n : SignedWord) : asSigned? (.int n) = some n := by
  rw [asSigned?, dif_pos n.property]

theorem asList?_texts (l : List String) : asList? asText? (.texts l) = some l :=
  asList?_eq_some_iff.2 ⟨_, rfl, by rw [List.map_map]; rfl⟩

theorem ofOption_map {α β : Type} (value : β → Json) (f : α → β) (o : Option α) :
    ofOption value (o.map f) = ofOption (fun a => value (f a)) o := by
  cases o <;> rfl

theorem withDefault?_asNullable? {α : Type} (value : α → Json) {read : Json → Option α}
    {o : Option α} (hread : ∀ a ∈ o, read (value a) = some a ∧ value a ≠ .null) {x : Option Json}
    (hx : x = some (ofOption value o) ∨ (ofOption value o = .null ∧ x = none)) :
    withDefault? none (asNullable? read) x = some o := by
  cases o with
  | none => rcases hx with rfl | ⟨-, rfl⟩ <;> rfl
  | some a =>
    obtain ⟨hread, hvalue⟩ := hread a rfl
    rcases hx with rfl | ⟨hnull, -⟩
    · rw [ofOption, withDefault?, asNullable?, hread, Option.map_some]
      exact hvalue
    · exact absurd hnull hvalue

end Json

open Json (Rearranges)

variable {recorded : List (String × Json)}

namespace Tags

def fields (tags : Tags) : List (String × Json) :=
  [("categories", .array (tags.byCategory.toList.map Json.texts)),
    ("all", .texts tags.all),
    ("resolved", .bool tags.resolved)]

theorem toRecord_eq (tags : Tags) : tags.toRecord = .ofFields tags.fields := rfl

theorem nodup_fields (tags : Tags) : (tags.fields.map Prod.fst).Nodup := by
  simp [fields]

theorem readCategories?_lists (byCategory : Vector (List String) 8) :
    readCategories? (.array (byCategory.toList.map Json.texts)) = some byCategory := by
  have hlists : Json.asList? (Json.asList? Json.asText?)
      (.array (byCategory.toList.map Json.texts)) = some byCategory.toList := by
    refine Json.asList?_eq_some_iff.2 ⟨_, rfl, ?_⟩
    rw [List.map_map]
    exact List.map_congr_left fun l _ => Json.asList?_texts l
  rw [readCategories?, hlists, Option.bind_some, dif_pos (by simp)]
  rfl

theorem ofRecord?_of_rearranges {tags : Tags} (h : Rearranges [] tags.fields recorded) :
    ofRecord? (.object recorded) = some { tags with all := tags.all.eraseDups } := by
  have hcategories : Json.required? readCategories? (Json.lookup "categories" recorded) =
      some tags.byCategory :=
    h.required?_eq tags.nodup_fields (by simp [fields]) nofun (readCategories?_lists _)
  have hall : Json.required? (Json.asList? Json.asText?) (Json.lookup "all" recorded) =
      some tags.all :=
    h.required?_eq tags.nodup_fields (by simp [fields]) nofun (Json.asList?_texts _)
  have hresolved : Json.required? Json.asBool? (Json.lookup "resolved" recorded) =
      some tags.resolved :=
    h.required?_eq tags.nodup_fields (v := .bool tags.resolved) (by simp [fields]) nofun rfl
  simp only [ofRecord?, Json.fullSlots?, Json.slots?, List.map, hcategories, hall, hresolved,
    Option.bind_eq_bind, Option.bind_some]
  rfl

end Tags

namespace MediaFile

def HasFiniteDuration (file : MediaFile) : Prop :=
  ∀ d ∈ file.duration, ∃ negative magnitude, d = .finite negative magnitude

def fields (file : MediaFile) : List (String × Json) :=
  [("extension", .text file.extension.label),
    ("width", .nat file.width),
    ("height", .nat file.height),
    ("size", .nat file.size),
    ("duration", .ofOption .ofFloat file.duration)]

theorem toRecord_eq (file : MediaFile) : file.toRecord = .ofFields file.fields := rfl

theorem nodup_fields (file : MediaFile) : (file.fields.map Prod.fst).Nodup := by
  simp [fields]

theorem ofRecord?_of_rearranges {file : MediaFile} (hfinite : file.HasFiniteDuration)
    (h : Rearranges ["duration"] file.fields recorded) :
    ofRecord? (.object recorded) = some file := by
  have hextension : Json.required? Json.asChoice? (Json.lookup "extension" recorded) =
      some file.extension.label :=
    h.required?_eq file.nodup_fields (v := .text file.extension.label) (by simp [fields])
      (by simp) rfl
  have hwidth : Json.required? Json.asHalfWord? (Json.lookup "width" recorded) =
      some ⟨file.width, file.width_lt⟩ :=
    h.required?_eq file.nodup_fields (by simp [fields]) (by simp) (Json.asNatBelow?_nat _)
  have hheight : Json.required? Json.asHalfWord? (Json.lookup "height" recorded) =
      some ⟨file.height, file.height_lt⟩ :=
    h.required?_eq file.nodup_fields (by simp [fields]) (by simp) (Json.asNatBelow?_nat _)
  have hsize : Json.required? Json.asWord? (Json.lookup "size" recorded) =
      some ⟨file.size, file.size_lt⟩ :=
    h.required?_eq file.nodup_fields (by simp [fields]) (by simp) (Json.asNatBelow?_nat _)
  have hduration : Json.withDefault? none (Json.asNullable? Json.asFloat?)
      (Json.lookup "duration" recorded) = some file.duration := by
    refine Json.withDefault?_asNullable? Json.ofFloat (fun d hd => ?_)
      ((h.lookup_cases file.nodup_fields (by simp [fields])).imp_right And.right)
    obtain ⟨negative, magnitude, rfl⟩ := hfinite d hd
    exact ⟨rfl, nofun⟩
  simp only [ofRecord?, Json.fullSlots?, Json.slots?, List.map, hextension, hwidth, hheight, hsize,
    hduration, Extension.ofLabel?_label, Option.bind_eq_bind, Option.bind_some]
  rfl

end MediaFile

namespace Post

def fieldsWith (post : Post) (tags file : Json) : List (String × Json) :=
  [("id", .nat post.id),
    ("rating", .text post.rating.label),
    ("score", .int post.score),
    ("favorites", .nat post.favorites),
    ("is_favorited", .bool post.isFavorited),
    ("tags", tags),
    ("flags", .text post.flags.toText),
    ("uploader", .nat post.uploader),
    ("uploader_name", .ofOption .text post.uploaderName),
    ("approver", .ofOption .nat post.approver),
    ("file", file),
    ("has_children", .bool post.hasChildren),
    ("has_parent", .bool post.hasParent)]

theorem toRecord_eq (post : Post) :
    post.toRecord = .ofFields (post.fieldsWith post.tags.toRecord post.file.toRecord) := rfl

theorem nodup_fieldsWith (post : Post) (tags file : Json) :
    ((post.fieldsWith tags file).map Prod.fst).Nodup := by
  simp [fieldsWith]

def optionalNames : List String := ["uploader_name", "approver"]

theorem ofRecord?_of_rearranges {post : Post} (hfinite : post.file.HasFiniteDuration)
    {tags file : List (String × Json)} (htags : Rearranges [] post.tags.fields tags)
    (hfile : Rearranges ["duration"] post.file.fields file)
    (h : Rearranges optionalNames (post.fieldsWith (.object tags) (.object file)) recorded) :
    ofRecord? (.object recorded) =
      some { post with tags := { post.tags with all := post.tags.all.eraseDups } } := by
  have hnodup := post.nodup_fieldsWith (.object tags) (.object file)
  obtain ⟨approver, hword⟩ : ∃ word : Option Json.Word, word.map (·.val) = post.approver :=
    ⟨post.approver.pmap Fin.mk post.approver_lt, by simp [Option.map_pmap]⟩
  have hid : Json.required? Json.asWord? (Json.lookup "id" recorded) =
      some ⟨post.id, post.id_lt⟩ :=
    h.required?_eq hnodup (by simp [fieldsWith]) (by decide) (Json.asNatBelow?_nat _)
  have hrating : Json.required? Json.asChoice? (Json.lookup "rating" recorded) =
      some post.rating.label :=
    h.required?_eq hnodup (v := .text post.rating.label) (by simp [fieldsWith]) (by decide) rfl
  have hscore : Json.required? Json.asSigned? (Json.lookup "score" recorded) =
      some ⟨post.score, post.score_bounds⟩ :=
    h.required?_eq hnodup (by simp [fieldsWith]) (by decide) (Json.asSigned?_int _)
  have hfavorites : Json.required? Json.asWord? (Json.lookup "favorites" recorded) =
      some ⟨post.favorites, post.favorites_lt⟩ :=
    h.required?_eq hnodup (by simp [fieldsWith]) (by decide) (Json.asNatBelow?_nat _)
  have hfavorited : Json.required? Json.asBool? (Json.lookup "is_favorited" recorded) =
      some post.isFavorited :=
    h.required?_eq hnodup (v := .bool post.isFavorited) (by simp [fieldsWith]) (by decide) rfl
  have htags : Json.required? Tags.ofRecord? (Json.lookup "tags" recorded) =
      some { post.tags with all := post.tags.all.eraseDups } :=
    h.required?_eq hnodup (by simp [fieldsWith]) (by decide) (Tags.ofRecord?_of_rearranges htags)
  have hflags : Json.required? Json.asText? (Json.lookup "flags" recorded) =
      some post.flags.toText :=
    h.required?_eq hnodup (v := .text post.flags.toText) (by simp [fieldsWith]) (by decide) rfl
  have huploader : Json.required? Json.asWord? (Json.lookup "uploader" recorded) =
      some ⟨post.uploader, post.uploader_lt⟩ :=
    h.required?_eq hnodup (by simp [fieldsWith]) (by decide) (Json.asNatBelow?_nat _)
  have hname : Json.withDefault? none (Json.asNullable? Json.asText?)
      (Json.lookup "uploader_name" recorded) = some post.uploaderName :=
    Json.withDefault?_asNullable? Json.text (fun _ _ => ⟨rfl, nofun⟩)
      ((h.lookup_cases hnodup (by simp [fieldsWith])).imp_right And.right)
  have happrover : Json.withDefault? none (Json.asNullable? Json.asWord?)
      (Json.lookup "approver" recorded) = some approver := by
    refine Json.withDefault?_asNullable? (fun n => Json.nat n.val)
      (fun n _ => ⟨Json.asNatBelow?_nat n, nofun⟩)
      ((h.lookup_cases hnodup ?_).imp_right And.right)
    simp [fieldsWith, ← hword, Json.ofOption_map]
  have hfile : Json.required? MediaFile.ofRecord? (Json.lookup "file" recorded) = some post.file :=
    h.required?_eq hnodup (by simp [fieldsWith]) (by decide)
      (MediaFile.ofRecord?_of_rearranges hfinite hfile)
  have hchildren : Json.required? Json.asBool? (Json.lookup "has_children" recorded) =
      some post.hasChildren :=
    h.required?_eq hnodup (v := .bool post.hasChildren) (by simp [fieldsWith]) (by decide) rfl
  have hparent : Json.required? Json.asBool? (Json.lookup "has_parent" recorded) =
      some post.hasParent :=
    h.required?_eq hnodup (v := .bool post.hasParent) (by simp [fieldsWith]) (by decide) rfl
  simp only [ofRecord?, fieldNames, Json.fullSlots?, Json.slots?, List.map, hid, hrating, hscore,
    hfavorites, hfavorited, htags, hflags, huploader, hname, happrover, hfile, hchildren, hparent,
    Rating.ofLabel?_label, Flags.ofText?_toText, Option.bind_eq_bind, Option.bind_some, hword]
  rfl

/-- The same post. The set of all its tags may be listed in another way. -/
structure ReadsAs (post q : Post) : Prop where
  fields : q = { post with tags := { post.tags with all := q.tags.all } }
  mem_all : ∀ tag, tag ∈ q.tags.all ↔ tag ∈ post.tags.all

/-- A post is read back from its record and from every record with the same fields: in another
order, with unknown fields added, or without those that hold nothing. -/
theorem stored_post_reads_back {post : Post} (h : post.file.HasFiniteDuration) :
    ∃ q, ofRecord? post.toRecord = some q ∧ post.ReadsAs q ∧
      (post.tags.all.Nodup → q = post) ∧
      ∀ tags file recorded, Rearranges [] post.tags.fields tags →
        Rearranges ["duration"] post.file.fields file →
        Rearranges optionalNames (post.fieldsWith (.object tags) (.object file)) recorded →
        ofRecord? (.object recorded) = some q := by
  obtain ⟨tags, htags, htagFields⟩ := Json.exists_ofFields post.tags.nodup_fields []
  obtain ⟨file, hfile, hfileFields⟩ := Json.exists_ofFields post.file.nodup_fields ["duration"]
  obtain ⟨recorded, hrecord, hfields⟩ := Json.exists_ofFields
    (post.nodup_fieldsWith (.object tags) (.object file)) optionalNames
  refine ⟨_, ?_, ⟨rfl, fun tag => List.mem_eraseDups⟩, fun hnodup => ?_,
    fun _ _ _ htags hfile hrecorded => ofRecord?_of_rearranges h htags hfile hrecorded⟩
  · rw [toRecord_eq, Tags.toRecord_eq, MediaFile.toRecord_eq, htags, hfile, hrecord]
    exact ofRecord?_of_rearranges h htagFields hfileFields hfields
  · rw [Text.eraseDups_of_nodup hnodup]

/-- The flags have bits without a name, and the approver is left out of a record that is turned
around. -/
theorem stored_post_reads_back_of_unnamed_bits :
    let post : Post := { id := 7, score := -3, tags := .ofFlat "solo duo", flags := ⟨0xC5⟩,
                         uploaderName := some "", file := { duration := some (.ofNat 90) } }
    let fields := post.fieldsWith (.object post.tags.fields.reverse) (.object post.file.fields)
    post.file.HasFiniteDuration ∧ post.flags.toText = "PENDING | DELETED | 0xc0" ∧
      ofRecord? post.toRecord = some post ∧
      ofRecord? (.object (("source", .null) :: (fields.filter (·.1 ≠ "approver")).reverse)) =
        some post := by
  intro post fields
  have hfinite : post.file.HasFiniteDuration := by
    intro d hd
    obtain rfl : Binary64.ofNat 90 = d := Option.some.inj hd
    exact ⟨false, _, Binary64.ofNat_eq_finite (by decide)⟩
  have hkept : Rearranges optionalNames fields
      (("source", .null) :: (fields.filter (·.1 ≠ "approver")).reverse) := by
    refine ⟨fields.filter (·.1 ≠ "approver"), [("approver", .null)], [("source", .null)], ?_, ?_,
      ?_, ?_⟩
    · have hdropped :
          fields.filter (fun f => !decide (f.1 ≠ "approver")) = [("approver", .null)] := by
        simp [fields, fieldsWith, post, Json.ofOption]
      rw [← hdropped]
      exact (List.filter_append_perm _ _).symm
    · exact ((List.reverse_perm _).cons _).trans (List.perm_append_singleton _ _).symm
    · simp [optionalNames]
    · simp [fields, fieldsWith]
  obtain ⟨q, hread, -, hsame, hrearranged⟩ := stored_post_reads_back hfinite
  obtain rfl : q = post := hsame (by decide)
  exact ⟨hfinite, by decide +kernel, hread, hrearranged _ _ _
    (.of_perm (List.reverse_perm _).symm _) (.of_perm (.refl _) _) hkept⟩

end Post

end BoardFilter
