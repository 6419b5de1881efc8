import LiveConfig.Text.Composed
import LiveConfig.Url.Domain.Marks
/-!
Invisible characters that join or part the letters around them.

They are at home behind the mark that takes a vowel away, and the one that parts letters is at
home between two that would be joined otherwise (version 17.0 of the Unicode data).
-/

set_option autoImplicit false

namespace LiveConfig.Url.Domain

def dualJoining : Text.CodePoints := .ofTable "
  620 626 628 62A-62E 633-63F 641-647 649-64A 66E-66F 679-687 69A-6BF 6C1-6C2 6CC 6CE 6D0-6D1
  6FA-6FC 6FF 712-714 71A-71D 71F-727 729 72B 72D-72E 74E-758 75C-76A 76D-770 772 775-777 77A-77F
  7CA-7EA 841-845 848 84A-853 855 860 862-865 868 886 889-88D 88F 8A0-8A9 8AF-8B0 8B3-8B8 8BA-8C8
  1807 1820-1878 1887-18A8 18AA A840-A871 10AC0-10AC4 10AD3-10AD6 10AD8-10ADC 10ADE-10AE0
  10AEB-10AEE 10B80 10B82 10B86-10B88 10B8A-10B8B 10B8D 10B90 10BAD-10BAE 10D01-10D21 10D23
  10EC3-10EC4 10EC6-10EC7 10F30-10F32 10F34-10F44 10F51-10F53 10F70-10F73 10F76-10F81 10FB0
  10FB2-10FB3 10FB8 10FBB-10FBC 10FBE-10FBF 10FC1 10FC4 10FCA 1E922-1E943"

def leftJoining : Text.CodePoints := .ofTable "A872 10ACD 10AD7 10D00 10FCB"

def rightJoining : Text.CodePoints := .ofTable "
  622-625 627 629 62F-632 648 671-673 688-699 6C0 6C3-6CB 6CD 6CF 6D2-6D3 6D5 6EE-6EF 710 715-719
  71E 728 72A 72C 72F 74D 759-75B 76B-76C 771 773-774 778-779 840 846-847 849 854 856-858 867
  869-882 88E 8AA-8AC 8AE 8B1-8B2 8B9 10AC5 10AC7 10AC9-10ACA 10ACE-10AD2 10ADD 10AE1 10AE4 10AEF
  10B81 10B83-10B85 10B89 10B8C 10B8E-10B8F 10B91 10BA9-10BAC 10D22 10EC2 10F33 10F54 10F74-10F75
  10FB4-10FB6 10FB9-10FBA 10FBD 10FC2-10FC3 10FC9"

/-- Characters that letters are joined across, besides the marks without space. -/
def transparent : Text.CodePoints := .ofTable "CBF CC6 11A07-11A08 11C3F 1E94B"

def dropTransparent (l : List Char) : List Char :=
  l.dropWhile fun c => nonspacing.holds c || transparent.holds c

def virama : Nat := 9

/-- Whether a parting character is between letters that would be joined; the text before it is given
from its end. -/
def parts (before after : List Char) : Bool :=
  (dropTransparent before).head?.any (fun c => dualJoining.holds c || leftJoining.holds c) &&
    (dropTransparent after).head?.any fun c => dualJoining.holds c || rightJoining.holds c

/-- Whether every joining and parting character is at home; the text before is given from its
end. -/
def joinersFit : List Char → List Char → Bool
  | _, [] => true
  | before, c :: l =>
      let fits :=
        if c.toNat = 0x200C ∨ c.toNat = 0x200D then
          before.head?.any (fun d => Text.combiningClass d = virama) ||
            (c.toNat = 0x200C && parts before l)
        else true
      fits && joinersFit (c :: before) l

end LiveConfig.Url.Domain
