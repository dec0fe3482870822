import AcmeClient.Unicode.Runs

/-!
# Printable characters

The characters that quoted text shows as they are.
-/

namespace AcmeClient.Unicode

/-- Controls, formats, separators, private and unassigned characters. -/
def unprintableRuns : Runs := .ofText "0Y wN 2nY yN cY 1N juY 2N 6Y 4N 7Y 1N 1Y 1N kY 1N b1Y 1N 12Y 2N 1eY 2N 3Y 1N 1jY 8N rY 4N 6Y hN mY
1N 5cY 1N 1cY 2N 1nY 2N 2tY eN 1nY 2N 1dY 2N fY 1N sY 2N 1Y 1N bY 5N wY 7N 23Y 1N 4hY 1N 8Y 2N 2Y
2N mY 1N 7Y 1N 1Y 3N 4Y 2N 9Y 2N 2Y 2N 4Y 8N 1Y 4N 2Y 1N 5Y 2N pY 2N 3Y 1N 6Y 4N 2Y 2N mY 1N 7Y 1N
2Y 1N 2Y 1N 2Y 2N 1Y 1N 5Y 4N 2Y 2N 3Y 3N 1Y 7N 4Y 1N 1Y 7N hY aN 3Y 1N 9Y 1N 3Y 1N mY 1N 7Y 1N 2Y
1N 5Y 2N aY 1N 3Y 1N 3Y 2N 1Y fN 4Y 2N cY 7N 7Y 1N 3Y 1N 8Y 2N 2Y 2N mY 1N 7Y 1N 2Y 1N 5Y 2N 9Y 2N
2Y 2N 3Y 7N 3Y 4N 2Y 1N 5Y 2N iY aN 2Y 1N 6Y 3N 3Y 1N 4Y 3N 2Y 1N 1Y 1N 2Y 3N 2Y 3N 3Y 3N cY 4N 5Y
3N 3Y 1N 4Y 2N 1Y 6N 1Y eN lY 5N dY 1N 3Y 1N nY 1N gY 2N 9Y 1N 3Y 1N 4Y 7N 2Y 1N 3Y 1N 2Y 2N 4Y 2N
aY 7N mY 1N 3Y 1N nY 1N aY 1N 5Y 2N 9Y 1N 3Y 1N 4Y 7N 2Y 5N 3Y 1N 4Y 2N aY 1N 3Y cN dY 1N 3Y 1N
1fY 1N 3Y 1N 6Y 4N gY 2N qY 1N 3Y 1N iY 3N oY 1N 9Y 1N 1Y 2N 7Y 3N 1Y 4N 6Y 1N 1Y 1N 8Y 6N aY 2N
3Y cN 1mY 4N tY 11N 2Y 1N 1Y 1N 5Y 1N oY 1N 1Y 1N nY 2N 5Y 1N 1Y 1N 7Y 1N aY 2N 4Y wN 20Y 1N 10Y
4N 13Y 1N 10Y 1N fY 1N dY 11N 5iY 1N 1Y 5N 1Y 2N ahY 1N 4Y 2N 7Y 1N 1Y 1N 4Y 2N 15Y 1N 4Y 2N xY 1N
4Y 2N 7Y 1N 1Y 1N 4Y 2N fY 1N 1lY 1N 4Y 2N 1vY 2N wY 3N qY 6N 2eY 2N 6Y 2N hsY 1N sY 3N 2hY 7N mY
9N oY 9N kY cN dY 1N 3Y 1N 2Y cN 2mY 2N aY 6N aY 6N eY 1N bY 6N 2hY 7N 17Y 5N 1yY aN vY 1N cY 4N
cY 4N 1Y 3N 16Y 2N 5Y bN 18Y 4N qY 6N bY 3N 1qY 2N 1tY 1N tY 2N bY 6N aY 6N eY 2N 1aY 2N cY kN 25Y
1N 4mY 8N 1oY 3N fY 3N 1qY 5N 17Y 2N bY 8N 17Y 5N euY 2N 6Y 2N 12Y 2N 6Y 2N 8Y 1N 1Y 1N 1Y 1N 1Y
1N vY 2N 1hY 1N fY 1N eY 2N 6Y 1N jY 2N 3Y 1N 9Y hN oY 8N 1bY hN 2Y 2N rY 1N dY 3N yY eN xY fN 3wY
4N iiY mN bY lN 1ecY 2N amY 5N 19Y 1N 1Y 5N 1Y 2N 1kY 7N 2Y eN oY 9N 7Y 1N 7Y 1N 7Y 1N 7Y 1N 7Y 1N
7Y 1N 7Y 1N 7Y 1N 3iY yN qY 1N 2hY cN 5yY qN gY 1N 1rY 1N 2eY 2N 2vY 5N 17Y 1N 2mY 1N 2eY 9N 1cY
1N mlpY 3N 1jY 9N 9oY kN 54Y 8N 65Y kN 1oY 3N aY 6N 1kY 8N 1yY 8N cY 6N 38Y bN uY 3N 26Y 1N bY 4N
xY 1N 1jY 9N eY 2N aY 2N 2vY oN sY aN 6Y 2N 6Y 2N 6Y 9N 7Y 1N 7Y 1N 1oY 4N 3iY 2N aY 6N 8mcY cN nY
4N 1dY 6isN a6Y 2N 2yY 12N 7Y cN 5Y 5N qY 1N 5Y 1N 1Y 1N 2Y 1N 2Y 1N i2Y wN 16Y 6N 1fY 1N jY 1N 4Y
4N 5Y 1N 3rY 4N 5aY 3N 6Y 2N 6Y 2N 6Y 2N 3Y 3N 7Y 1N 7Y dN 2Y 2N cY 1N qY 1N jY 1N 2Y 1N fY 2N eY
yN 3fY 5N 3Y 4N 19Y 3N 2gY 1N dY 3N 1Y 1bN 1aY 3mN tY 3N 1dY fN sY 4N 10Y 9N uY 5N 17Y 5N uY 1N
11Y 4N eY 16N 4eY 2N aY 6N 10Y 4N 10Y 4N 14Y 8N 1gY bN cY 1N fY 1N 7Y 1N 2Y 1N bY 1N fY 1N 7Y 1N
2Y 3N 1gY cN 8nY 9N mY aN 8Y oN 6Y 1N 16Y 1N 9Y 1xN 6Y 2N 1Y 1N 18Y 1N 2Y 3N 1Y 2N nY 1N 20Y 8N 9Y
1cN jY 1N 2Y 5N xY 3N rY 5N rY 12N 1kY 4N kY 2N 1eY 1N 2Y 5N 8Y 1N 3Y 1N tY 2N 3Y 4N aY 7N 9Y 7N
1sY wN 13Y 4N cY 9N 1iY 3N tY 2N rY 5N qY 7N 4Y cN 7Y 28N 21Y 1jN 1fY dN 1fY 7N 1aY 8N aY 6N 12Y
3N tY 8N 2Y 5sN vY 1N 16Y 1N 3Y 2N 2Y gN 6Y 8N 9Y xN 1aY 8N 16Y mN qY 12N sY kN nY 9N 26Y 4N 10Y
9N 1qY 1N 5Y dN pY 7N aY 6N 1hY 1N iY 8N 13Y 9N 2oY 1N kY bN iY 1N 1bY 1qN 7Y 1N 1Y 1N 4Y 1N fY 1N
bY 6N 1nY 5N aY 6N 4Y 1N 8Y 2N 2Y 2N mY 1N 7Y 1N 2Y 1N 5Y 1N aY 2N 2Y 2N 3Y 2N 1Y 6N 1Y 5N 7Y 2N
7Y 3N 5Y bN aY 1N 1Y 2N 1Y 1N 12Y 1N aY 1N 1Y 2N 1Y 1N 4Y 1N aY 1N 2Y 8N 2Y tN 2kY 1N 5Y uN 20Y 8N
aY 4mN 1iY 2N 12Y yN 1xY bN aY 6N dY jN 1mY 6N aY 6N kY sN rY 2N fY 4N nY 55N 1oY 2sN 2bY cN 8Y 2N
1Y 2N 8Y 1N 2Y 1N uY 1N 2Y 2N cY 9N aY 1yN 8Y 2N 1aY 2N bY rN 20Y 8N 2bY dN 21Y 7N aY 2eN 8Y 2gN
yY eN aY 6N 9Y 1N 19Y 1N eY aN tY 3N wY 2N mY 1N eY 21N 7Y 1N 2Y 1N 18Y 3N 1Y 1N 2Y 1N 9Y 8N aY 6N
6Y 1N 2Y 1N 11Y 1N 2Y 1N 6Y 7N aY 6N 18Y 4N aY 6uN pY 7N hY 1N 15Y 3N tY 2dN 1Y fN 1eY dN pnY 2uN
33Y 1N 5Y bN 5gY 218N 2rY dN tsY gN mY aN 32zY 5N g7Y 5a1N 1mY 1c6N ftY 7N vY 1N aY 4N 29Y 1N aY
6N uY 2N 6Y aN 1yY aN aY 1N 7Y 1N lY 5N jY c0N 1mY 5iN 2jY 5N pY 2N pY 18N 23Y 4N 1lY 7N hY 1sN 5Y
bN 7Y 9N 5p2Y 15N wY 2pN 37Y 6ppN 4Y 1N 7Y 1N 2Y 1N 83Y fN 1Y tN 3Y 2N 1Y eN 4Y 8N b0Y 1s4N 2zY 5N
dY 3N 9Y 7N aY 2N 4Y 31cN 71Y 3N c4Y 6N nY fN hY fN 1aY 2N nY 9N 38Y 1oN 6uY aN 13Y 2N 22Y 8N 34Y
lN 1yY 3eN kY cN kY cN 2fY 9N pY 3rN 2dY 1N 1zY 1N 2Y 2N 1Y 2N 2Y 2N 4Y 1N cY 1N 1Y 1N 7Y 1N 1tY
1N 4Y 2N 8Y 1N 7Y 1N sY 1N 4Y 1N 5Y 1N 1Y 3N 7Y 1N 9gY 2N 84Y 2N jiY fN 5Y 1N fY uoN vY 6N 6Y 5xN
7Y 1N hY 2N 7Y 1N 2Y 1N 5Y 5N 1qY xN 1Y 34N 19Y 3N eY 2N aY 4N 2Y 8wN vY hN 1mY 5N 1Y cwN 16Y 5yN
17Y 4N 1Y 5cN vY 1N mY 8N 2Y 68N 7Y 1N 4Y 1N 2Y 1N fY 1N 5hY 2N gY 15N 24Y 4N aY 4N 2Y ltN 1wY 24N
1pY 5eN 4Y 1N rY 1N 2Y 1N 1Y 2N 1Y 1N aY 1N 4Y 1N 1Y 1N 1Y 6N 1Y 4N 1Y 1N 1Y 1N 1Y 1N 3Y 1N 2Y 1N
1Y 2N 1Y 1N 1Y 1N 1Y 1N 1Y 1N 1Y 1N 2Y 1N 1Y 2N 4Y 1N 7Y 1N 4Y 1N 4Y 1N 1Y 1N aY 1N hY 5N 3Y 1N 5Y
1N hY 1gN 2Y 7iN 18Y 4N 2sY cN fY 2N fY 1N fY 1N 11Y aN 4uY 1kN tY dN 18Y 4N 9Y 7N 2Y eN 6Y 4aN
rdY 3N hY 3N dY 3N 62Y 6N cY 4N 1Y fN cY 4N 1kY 8N aY 6N 14Y 8N uY 2N cY 4N 2Y eN 9Y 13N 9kY 8N eY
2N dY 3N bY 3N 1lY 1N 1Y 4N gY 2N cY 4N aY 7N 43Y 1N 2vY slN wyoY wN 3dqY 2N 4geY 2N 5rlY fN haY
1wiN f2Y 15uN 3t7Y 5N 6juY f62uN 6oY"

/-- The characters that extend the one before them. -/
def graphemeExtendRuns : Runs := .ofText "0N lcY 34N 7nY 7N 7bY 19N 1Y 1N 1Y 2N 1Y 2N 1Y 1N 20Y bN 1cY lN gY 1N 2tY 7N 2Y 6N 2Y 2N 1Y 4N zY
1N uY rN 2jY bN 1mY 9N 9Y 1N oY 4N 1Y 9N 1Y 3N 1Y 5N 17Y 3N 1nY 9N 16Y oN 1Y wN 1jY 1N 1Y 1N 4Y 8N
4Y 1N 3Y 7N aY 2N tY 1N 1mY 1N 1Y 1N 2Y 4N 8Y 1N 9Y 1N aY 2N qY 1N 2Y 2N 1lY 1N 4Y 2N 4Y 2N 2Y 3N
3Y 1N uY 2N 3Y 1N bY 2N 1lY 1N 4Y 5N 1Y 2N 4Y 1N kY 2N mY 6N 1Y 1N 1mY 1N 1Y 2N 1Y 4N 8Y 1N 7Y 3N
aY 2N uY 1N 1nY 1N 1Y 1N cY 1N 9Y 1N 14Y 1N 3Y 1N 1jY 1N 1Y 3N 5Y 3N 1Y 4N 7Y 2N bY 2N tY 1N 1mY
1N 2Y 2N 1Y 1N 3Y 3N 1Y 4N 7Y 2N bY 2N sY 2N 1lY 2N 1Y 1N 2Y 4N 8Y 1N 9Y 1N aY 2N tY 1N 20Y 1N 4Y
1N 2Y 3N 1Y 1N 8Y 1N 29Y 1N 2Y 7N cY 8N 2qY 1N 2Y 9N bY 7N 21Y 2N rY 1N 1Y 1N 1Y 1N 1jY eN 1Y 5N
1Y 2N 5Y bN 1Y 10N 9Y 1N 2uY 4N 1Y 6N 1Y 2N 2Y 2N pY 2N 4Y 3N gY 4N dY 1N 2Y 2N 6Y 1N fY 1N jjY 3N
qaY 4N sY 3N tY 2N uY 2N 1sY 2N 1Y 7N 8Y 1N 2Y bN 9Y 1N 19Y 3N 1Y 1N 39Y 2N yY 1N 3aY 3N 4Y 2N 9Y
1N 6Y 3N 63Y 2N 2Y 1N 1mY 1N 1Y 7N 1Y 1N 1Y 1N 2Y 8N 6Y aN 2Y 1N 1cY 1aN 2Y cN kY 4N 1cY aN 4Y 3N
12Y 9N cY 2N wY 4N 2Y 6N 1kY 1N 1Y 2N 3Y 1N 1Y 5N 1kY 8N 2Y 2N 48Y 3N 1Y dN 1Y 7N 4Y 1N 6Y 1N 3Y
2N 5iY 1sN ekY 1N 5fY xN 2daY 3N 3xY 1N 2oY wN feY 6N 2xY 2N n9wY 4N 1Y aN wY 2N 28Y 2N 7kY 1N 3Y
1N 4Y 1N pY 2N 5Y 1N 47Y 2N qY iN dY 1N 12Y 8N pY bN 1Y 1N 18Y 3N 1cY 1N 2Y 4N 2Y 2N 2Y 1N 10Y 1N
1vY 6N 2Y 2N 2Y 2N cY 1N 8Y 1N 1bY 1N 1fY 1N 1Y 3N 2Y 2N 5Y 2N 1Y 1N 16Y 2N 8Y 1N 6mY 1N 2Y 1N 4Y
1N fn4Y 1N khY gN gY gN a6Y 2N gtY 1N 6aY 1N 45Y 5N 1aeY 3N 1Y 2N 5Y 4N 14Y 3N 4Y 1N 4lY 2N fxY 4N
1tY 5N 8tY 2N 25Y 6N 1yY bN 1dY 4N 3fY 1N 1iY fN 15Y 1N 2Y 2N aY 3N 1dY 4N 2Y 2N 7Y 1N 1pY 3N 10Y
5N 1Y 8N 1qY 1N cY 2N 1gY 9N 1Y 1N 8Y 4N 2Y 1N 2nY 3N 2Y 4N 6Y 1N 2Y 1N 4dY 1N 3Y 8N lY 2N 1lY 2N
1Y 1N 1Y 1N cY 1N 9Y 1N eY 7N 3Y 5N 1vY 1N 2Y 6N 1Y 1N 2Y 1N 1Y 3N 4Y 3N 1Y 1N eY 2N 2dY 8N 2Y 3N
1Y 1N nY 1N 29Y 1N 2Y 6N 1Y 1N 2Y 1N 1Y 2N 1Y 2N 6jY 1N 2Y 4N 6Y 2N 1Y 2N rY 2N 2dY 8N 2Y 1N 1Y 2N
2yY 1N 1Y 1N 2Y 8N 2tY 1N 1Y 1N 2Y 4N 1Y 5N 77Y 9N 1Y 2N 6tY 1N aY 4N 4Y 1N 40Y 4N 2Y 2N 4Y 1N wY
aN 14Y 6N 2Y 4N 8Y 1N 9Y 6N 2Y 3N 1aY dN 1Y 2N 5iY 1N 1Y 3N 1Y 1N 5lY 7N 1Y 6N 1Y 1N 2aY mN 2Y 7N
1Y 2N 1Y 2N 3eY 6N 3Y 1N 1Y 2N 1Y 7N 1Y 1N 20Y 2N 3Y 1N 1Y 1N 9nY 2N bY 2N 1gY 5N 5Y 3N nY 1N 44lY
1N 6Y fN 8ugY cN 3Y 3N 1xcY 5N 1nY 7N t4Y 1N 1rY 4N 29Y 1N bY 2N f57Y 2N 3mpY 1aN 2Y nN f2Y 5N 3Y
6N 8Y 8N 2Y 7N uY 4N 44Y 3N 1izY 1jN 4Y 1eN 8Y 1N eY 1N mY 5N 1Y fN 11sY 7N 1Y hN 2Y 7N 1Y 2N 1Y
5N 2sY 1N 4gY 7N afY 1N 1pY 4N e4Y 4N 72Y 2N 6rY 1N 2Y 1N 7Y 2N 5Y 1N d6Y 7N 31Y 7N gzbpY 2oN 3kY
6oN"

/-- Whether a character is shown as it is in quoted text. -/
def isShown (c : Char) : Bool :=
  if c.toNat < 0x7F then 0x20 ≤ c.toNat
  else !unprintableRuns.contains c && !graphemeExtendRuns.contains c

end AcmeClient.Unicode
