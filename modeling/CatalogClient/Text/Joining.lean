/-
# Joined letters

The letters of some scripts are joined to their neighbours, on one side or on both. Marks do not
stand in the way.
-/

import CatalogClient.Text.Marks

namespace CatalogClient.Text

/-- Letters that are joined on both sides. -/
def dualJoiningRanges : CharRanges := [
  (1568, 1568), (1574, 1574), (1576, 1576), (1578, 1582), (1587, 1599), (1601, 1607), (1609, 1610),
  (1646, 1647), (1656, 1671), (1690, 1727), (1729, 1730), (1740, 1740), (1742, 1742), (1744, 1745),
  (1786, 1788), (1791, 1791), (1810, 1812), (1818, 1821), (1823, 1831), (1833, 1833), (1835, 1835),
  (1837, 1838), (1870, 1880), (1884, 1898), (1901, 1904), (1906, 1906), (1909, 1911), (1914, 1919),
  (1994, 2026), (2113, 2117), (2120, 2120), (2122, 2131), (2133, 2133), (2144, 2144), (2146, 2149),
  (2152, 2152), (2182, 2182), (2185, 2189), (2191, 2191), (2208, 2217), (2223, 2224), (2227, 2232),
  (2234, 2248), (6151, 6151), (6176, 6264), (6279, 6312), (6314, 6314), (43072, 43121),
  (68288, 68292), (68307, 68310), (68312, 68316), (68318, 68320), (68331, 68334), (68480, 68480),
  (68482, 68482), (68486, 68488), (68490, 68491), (68493, 68493), (68496, 68496), (68525, 68526),
  (68865, 68897), (68899, 68899), (69315, 69316), (69318, 69319), (69424, 69426), (69428, 69444),
  (69457, 69459), (69488, 69491), (69494, 69505), (69552, 69552), (69554, 69555), (69560, 69560),
  (69563, 69564), (69566, 69567), (69569, 69569), (69572, 69572), (69578, 69578), (125184, 125251)]

/-- Letters that are joined to the letter after them only. -/
def leftJoiningRanges : CharRanges := [
  (43122, 43122), (68301, 68301), (68311, 68311), (68864, 68864), (69579, 69579)]

/-- Letters that are joined to the letter before them only. -/
def rightJoiningRanges : CharRanges := [
  (1570, 1573), (1575, 1575), (1577, 1577), (1583, 1586), (1608, 1608), (1649, 1651), (1653, 1655),
  (1672, 1689), (1728, 1728), (1731, 1739), (1741, 1741), (1743, 1743), (1746, 1747), (1749, 1749),
  (1774, 1775), (1808, 1808), (1813, 1817), (1822, 1822), (1832, 1832), (1834, 1834), (1836, 1836),
  (1839, 1839), (1869, 1869), (1881, 1883), (1899, 1900), (1905, 1905), (1907, 1908), (1912, 1913),
  (2112, 2112), (2118, 2119), (2121, 2121), (2132, 2132), (2134, 2136), (2151, 2151), (2153, 2154),
  (2160, 2178), (2190, 2190), (2218, 2220), (2222, 2222), (2225, 2226), (2233, 2233),
  (68293, 68293), (68295, 68295), (68297, 68298), (68302, 68306), (68317, 68317), (68321, 68321),
  (68324, 68324), (68335, 68335), (68481, 68481), (68483, 68485), (68489, 68489), (68492, 68492),
  (68494, 68495), (68497, 68497), (68521, 68524), (68898, 68898), (69314, 69314), (69427, 69427),
  (69460, 69460), (69492, 69493), (69556, 69558), (69561, 69562), (69565, 69565), (69570, 69571),
  (69577, 69577)]

/-- Characters that do not stand in the way of joined letters although they are no marks without
room of their own. -/
def seeThroughRanges : CharRanges := [
  (173, 173), (1564, 1564), (1807, 1807), (2199, 2199), (3790, 3790), (6863, 6877), (6880, 6891),
  (8203, 8203), (8206, 8207), (8234, 8238), (8288, 8292), (8298, 8303), (65279, 65279),
  (65529, 65531), (68969, 68973), (69370, 69375), (70209, 70209), (70587, 70592), (70606, 70606),
  (70608, 70608), (70610, 70610), (70625, 70626), (72544, 72544), (72546, 72548), (72550, 72550),
  (73472, 73473), (73526, 73530), (73536, 73536), (73538, 73538), (73562, 73562), (78896, 78912),
  (78919, 78933), (90398, 90409), (90413, 90415), (113824, 113827), (119155, 119162),
  (123023, 123023), (124140, 124143), (124398, 124399), (124643, 124643), (124646, 124646),
  (124654, 124655), (124661, 124661), (125259, 125259), (917505, 917505), (917536, 917631)]

/-- Whether a character does not stand in the way of joined letters: the marks without room of their
own, apart from one that is a consonant, and some others. -/
def isTransparent (code : Nat) : Bool :=
  (isNonspacingMark code && decide (code ≠ 0x1171E)) || seeThroughRanges.hasCode code

/-- Whether a letter is joined to the letter after it. -/
def joinsNext (code : Nat) : Bool :=
  dualJoiningRanges.hasCode code || leftJoiningRanges.hasCode code

/-- Whether a letter is joined to the letter before it. -/
def joinsPrevious (code : Nat) : Bool :=
  dualJoiningRanges.hasCode code || rightJoiningRanges.hasCode code

end CatalogClient.Text
