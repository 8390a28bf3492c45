import DirectoryName.Proofs.Visibility

namespace DirectoryName

/-! Names written without bookkeeping bits.

What is written, and what is refused, depends on two bits of a value's flags, and neither is a
bookkeeping bit. So a name and what is handed out of it are written alike, in the display
notations too, where the flags decide whether a label is looked at. -/

namespace ValueFlags

theorem isBinary_visible (flags : ValueFlags) : flags.visible.isBinary = flags.isBinary := by
  have kept : ~~~internalMask &&& binary.bits = binary.bits := by decide
  rw [isBinary, isBinary, visible, UInt32.and_assoc, kept]

theorem isNonprintable_visible (flags : ValueFlags) :
    flags.visible.isNonprintable = flags.isNonprintable := by
  have kept : ~~~internalMask &&& nonprintable.bits = nonprintable.bits := by decide
  rw [isNonprintable, isNonprintable, visible, UInt32.and_assoc, kept]

end ValueFlags

namespace Ava

theorem fault?_visible (ava : Ava) : ava.visible.fault? = ava.fault? := by
  simp only [fault?, visible, ValueFlags.isBinary_visible]

theorem writeValue_visible (rules : EscapeRules) (ava : Ava) :
    ava.visible.writeValue rules = ava.writeValue rules := by
  simp only [writeValue, visible, ValueFlags.isBinary_visible, ValueFlags.isNonprintable_visible]

theorem writeQuotable_visible (ava : Ava) : ava.visible.writeQuotable = ava.writeQuotable := by
  rw [writeQuotable, writeQuotable, writeValue_visible]
  simp only [visible, ValueFlags.isBinary_visible, ValueFlags.isNonprintable_visible]

theorem write_visible {value : Ava → List Char} (same : ∀ ava : Ava, value ava.visible = value ava)
    (ava : Ava) : ava.visible.write value = ava.write value := by
  rw [write, write, same]
  rfl

end Ava

namespace Rdn

theorem write_visible {write : Ava → List Char} (same : ∀ ava : Ava, write ava.visible = write ava)
    (joint : List Char) (rdn : Rdn) : rdn.visible.write joint write = rdn.write joint write := by
  rw [Rdn.write, Rdn.write, avas_visible, List.map_map]
  exact congrArg joint.intercalate (List.map_congr_left fun ava _ => same ava)

theorem isDomainComponent_visible (rdn : Rdn) :
    rdn.visible.isDomainComponent = rdn.isDomainComponent := by
  simp only [isDomainComponent, isMultiValued, visible, Ava.visible, List.isEmpty_map]

theorem isDomainComponent_comp_visible : isDomainComponent ∘ visible = isDomainComponent :=
  funext isDomainComponent_visible

theorem writeLabel_visible (rules : EscapeRules) (rdn : Rdn) :
    rdn.visible.writeLabel rules = rdn.writeLabel rules := by
  have value := rdn.first.writeValue_visible rules
  simp only [writeLabel, visible, value]
  simp only [Ava.visible, ValueFlags.isBinary_visible]

end Rdn

namespace Dn

theorem fault?_visible (name : Dn) : name.visible.fault? = name.fault? := by
  have same : Ava.fault? ∘ Ava.visible = Ava.fault? := funext Ava.fault?_visible
  have component (rdn : Rdn) :
      rdn.visible.avas.findSome? Ava.fault? = rdn.avas.findSome? Ava.fault? := by
    rw [Rdn.avas_visible, List.findSome?_map, same]
  rw [fault?, fault?, visible, List.findSome?_map]
  exact congrArg (name.rdns.findSome? ·) (funext component)

theorem domain_visible (name : Dn) : name.visible.domain = name.domain.map Rdn.visible := by
  rw [domain, domain, visible, ← List.map_reverse, List.takeWhile_map,
    Rdn.isDomainComponent_comp_visible, List.map_reverse]

theorem leaf_visible (name : Dn) : name.visible.leaf = name.leaf.map Rdn.visible := by
  rw [leaf, leaf, visible, ← List.map_reverse, List.dropWhile_map,
    Rdn.isDomainComponent_comp_visible, List.map_reverse]

theorem writeDomain_visible (rules : EscapeRules) (labels : List Rdn) :
    writeDomain rules (labels.map Rdn.visible) = writeDomain rules labels := by
  have same : Rdn.writeLabel rules ∘ Rdn.visible = Rdn.writeLabel rules :=
    funext (Rdn.writeLabel_visible rules)
  rw [writeDomain, writeDomain, List.mapM_map, same]

theorem map_write_visible {write : Rdn → List Char}
    (same : ∀ rdn : Rdn, write rdn.visible = write rdn) (rdns : List Rdn) :
    (rdns.map Rdn.visible).map write = rdns.map write := by
  rw [List.map_map]
  exact List.map_congr_left fun rdn _ => same rdn

theorem write_visible (form : Notation) (name : Dn) : name.visible.write form = name.write form := by
  have value (rules : EscapeRules) (joint : List Char) (rdn : Rdn) :
      rdn.visible.write joint (Ava.writeValue rules) = rdn.write joint (Ava.writeValue rules) :=
    rdn.write_visible (Ava.writeValue_visible rules) joint
  have ava (rules : EscapeRules) (joint : List Char) (rdn : Rdn) :
      rdn.visible.write joint (Ava.write (Ava.writeValue rules)) =
        rdn.write joint (Ava.write (Ava.writeValue rules)) :=
    rdn.write_visible (Ava.write_visible (Ava.writeValue_visible rules)) joint
  cases form with
  | ldap | ldapV3 =>
      simp only [write, writeLdap, visible, map_write_visible (ava _ _)]
  | ldapV2 =>
      have quotable (rdn : Rdn) : rdn.visible.write ['+'] (Ava.write Ava.writeQuotable) =
          rdn.write ['+'] (Ava.write Ava.writeQuotable) :=
        rdn.write_visible (Ava.write_visible Ava.writeQuotable_visible) ['+']
      simp only [write, writeLdapV2, visible, map_write_visible quotable]
  | dce =>
      simp only [write, writeDce, visible, ← List.map_reverse, List.flatMap_map, ava]
  | ufn =>
      simp only [write, writeUfn, leaf_visible, domain_visible, writeDomain_visible,
        map_write_visible (value _ _), List.isEmpty_map]
  | adCanonical =>
      simp only [write, writeAdCanonical, leaf_visible, domain_visible, writeDomain_visible,
        ← List.map_reverse, map_write_visible (value _ _), List.isEmpty_map]

/-- Nothing that is written of a name, and nothing it is refused for, tells of its
bookkeeping bits. -/
theorem build_visible (name : Dn) (flags : NameFlags) :
    name.visible.build flags = name.build flags := by
  have root : name.visible.rdns.isEmpty = name.rdns.isEmpty := List.isEmpty_map
  simp only [build, fault?_visible, write_visible, root]

end Dn

end DirectoryName
