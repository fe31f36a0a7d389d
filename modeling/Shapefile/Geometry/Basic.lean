import Shapefile.Geometry.Ring

/-!
Geometries: a shape in the plane, tagged with the identifier of its spatial reference. Polygons list
their shell before their holes, and the coordinates of a shape are in that order.
-/

namespace Shapefile

/-- A shell and its holes. -/
structure Polygon where
  exterior : Ring
  interiors : List Ring
deriving BEq, DecidableEq

/-- The shell, then the holes. -/
def Polygon.rings (p : Polygon) : List Ring := p.exterior :: p.interiors

inductive Shape where
  | point (c : Coordinate)
  | multiPoint (cs : List Coordinate)
  | lineString (cs : List Coordinate)
  | multiLineString (lines : List (List Coordinate))
  | polygon (p : Polygon)
  | multiPolygon (ps : List Polygon)
deriving BEq, DecidableEq

namespace Shape

def typeName : Shape → String
  | point _ => "Point"
  | multiPoint _ => "MultiPoint"
  | lineString _ => "LineString"
  | multiLineString _ => "MultiLineString"
  | polygon _ => "Polygon"
  | multiPolygon _ => "MultiPolygon"

/-- All coordinates in storage order. -/
def coordinates : Shape → List Coordinate
  | point c => [c]
  | multiPoint cs | lineString cs => cs
  | multiLineString lines => lines.flatten
  | polygon p => p.rings.flatten
  | multiPolygon ps => ps.flatMap fun p => p.rings.flatten

end Shape

/-- A shape and its spatial reference; the reference is no part of a stored record. -/
structure Geometry where
  shape : Shape
  srid : Int32 := 0
deriving BEq, DecidableEq

namespace Geometry

def typeName (g : Geometry) : String := g.shape.typeName

def coordinates (g : Geometry) : List Coordinate := g.shape.coordinates

def numPoints (g : Geometry) : Nat := g.coordinates.length

def isEmpty (g : Geometry) : Bool := g.numPoints == 0

/-- The box around all coordinates, if there are any. -/
def envelope? (g : Geometry) : Option Envelope := Envelope.of? g.coordinates

end Geometry

end Shapefile
