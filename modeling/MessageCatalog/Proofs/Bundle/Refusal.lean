import MessageCatalog.Generation.Failure

/-!
# Refused bundles

A document can be refused for its encoding before it is looked at. No document that has been parsed
is refused for that reason.

**Results.**
* `Bundle.ofNode_ne_unknownEncoding`: a document tree is never refused for its encoding.
* `Bundle.ofFile_eq_error`: a bundle file is refused by the system, for its encoding or for what it
  contains.
-/

namespace MessageCatalog
namespace Bundle

variable {source encoding : Text}

theorem addContents_ne_unknownEncoding (r : Resource) (nodes : List Markup.Node) :
    addContents source r nodes ≠ .error (.unknownEncoding encoding) := by
  fun_induction addContents source r nodes with
  | case1 r => simp
  | case5 r attributes children rest htext hname => simp
  | _ => assumption

theorem resourceOf_ne_unknownEncoding (tag : Text) (kind : ResourceKind) (attributes : Attributes)
    (children : List Markup.Node) :
    resourceOf source tag kind attributes children ≠ .error (.unknownEncoding encoding) := by
  unfold resourceOf
  cases Text.present? (attribute? attributes "name") with
  | none => simp
  | some name => exact addContents_ne_unknownEncoding _ children

theorem hintOf_ne_unknownEncoding (attributes : Attributes) :
    hintOf source attributes ≠ .error (.unknownEncoding encoding) := by
  unfold hintOf
  split
  · simp
  · simp

theorem addChildren_ne_unknownEncoding (b : Bundle) (nodes : List Markup.Node) :
    addChildren source b nodes ≠ .error (.unknownEncoding encoding) := by
  fun_induction addChildren source b nodes with
  | case1 b => simp
  | case5 b attributes children rest e hhint hcode =>
      rintro ⟨⟩
      exact hintOf_ne_unknownEncoding attributes hhint
  | case7 b tag attributes children rest hcode hfactory hkind => simp
  | case8 b tag attributes children rest hcode hfactory kind hkind e hresource =>
      rintro ⟨⟩
      exact resourceOf_ne_unknownEncoding tag kind attributes children hresource
  | case9 => simp
  | _ => assumption

theorem localeOf_ne_unknownEncoding (attributes : Attributes) :
    localeOf source attributes ≠ .error (.unknownEncoding encoding) := by
  unfold localeOf
  cases Text.present? (attribute? attributes "locale") with
  | none => simp
  | some identifier =>
      simp only
      split
      · simp
      · simp

/-- A document tree is never refused for its encoding. -/
theorem ofNode_ne_unknownEncoding (node : Markup.Node) :
    ofNode source node ≠ .error (.unknownEncoding encoding) := by
  cases node with
  | text t => simp [ofNode]
  | comment t => simp [ofNode]
  | element tag attributes children =>
      rw [ofNode]
      by_cases hroot : tag ≠ "resourceBundle".toList
      · rw [if_pos hroot]
        simp
      · rw [if_neg hroot]
        cases hlocale : localeOf source attributes with
        | error e =>
            rintro ⟨⟩
            exact localeOf_ne_unknownEncoding attributes hlocale
        | ok locale => exact addChildren_ne_unknownEncoding _ children

/-- Bytes that are refused for their encoding are in one that is not known. -/
theorem ofBytes_eq_unknownEncoding {bytes : Bytes}
    (h : ofBytes source bytes = .error (.unknownEncoding encoding)) :
    Markup.Node.ofBytes bytes = .error (.unknownEncoding encoding) := by
  unfold ofBytes at h
  cases hnode : Markup.Node.ofBytes bytes with
  | ok root =>
      rw [hnode] at h
      exact absurd h (ofNode_ne_unknownEncoding root)
  | error e =>
      rw [hnode] at h
      cases e with
      | malformed => cases h
      | unknownEncoding name =>
          cases h
          rfl

/-- A bundle file is refused by the file tree, for its encoding, or for a reason that concerns it
alone. -/
theorem ofFile_eq_error {t : FileTree} {path : Path} {f : Failure}
    (h : ofFile t path = .error f) :
    (∃ e, t.read path = .error e ∧ f = .ofReading path e) ∨
      (∃ bytes encoding, t.read path = .ok bytes ∧
        Markup.Node.ofBytes bytes = .error (.unknownEncoding encoding) ∧
        f = .bundle (.unknownEncoding encoding)) ∨
      f.isLocal = true := by
  unfold ofFile at h
  cases hread : t.read path with
  | error e =>
      rw [hread] at h
      cases h
      exact Or.inl ⟨e, rfl, rfl⟩
  | ok bytes =>
      simp only [hread] at h
      cases hbytes : ofBytes path.text bytes with
      | ok b =>
          rw [hbytes] at h
          cases h
      | error e =>
          rw [hbytes] at h
          cases h
          cases e with
          | unknownEncoding encoding =>
              exact Or.inr (Or.inl ⟨bytes, encoding, rfl, ofBytes_eq_unknownEncoding hbytes, rfl⟩)
          | _ => exact Or.inr (Or.inr rfl)

end Bundle
end MessageCatalog
