import Shapefile.Geometry.Basic

/-!
Well-known text of geometries: the name of the type in capitals, then nested lists in parentheses.
-/

namespace Shapefile

/-- Items in parentheses, with a comma and a blank between them. -/
def parenthesized (items : List (List Char)) : List Char :=
  '(' :: ([',', ' '].intercalate items ++ [')'])

namespace Shape

/-- A list of coordinates. -/
def coordinatesText (cs : List Coordinate) : List Char := parenthesized (cs.map Coordinate.text)

/-- The rings of a polygon. -/
def polygonText (p : Polygon) : List Char := parenthesized (p.rings.map coordinatesText)

def wellKnownText : Shape → String
  | point c => "POINT " ++ String.ofList (parenthesized [c.text])
  | multiPoint cs => "MULTIPOINT " ++ String.ofList (coordinatesText cs)
  | lineString cs => "LINESTRING " ++ String.ofList (coordinatesText cs)
  | multiLineString lines =>
    "MULTILINESTRING " ++ String.ofList (parenthesized (lines.map coordinatesText))
  | polygon p => "POLYGON " ++ String.ofList (polygonText p)
  | multiPolygon ps => "MULTIPOLYGON " ++ String.ofList (parenthesized (ps.map polygonText))

end Shape

end Shapefile
