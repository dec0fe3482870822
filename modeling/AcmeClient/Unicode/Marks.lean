import AcmeClient.Unicode.Runs

/-!
# Combining marks

The characters that cannot begin a label.
-/

namespace AcmeClient.Unicode

/-- The characters of the mark categories. -/
def markRuns : Runs := .ofText "0N lcY 34N 7nY 7N 7bY 19N 1Y 1N 1Y 2N 1Y 2N 1Y 1N 20Y bN 1cY lN gY 1N 2tY 7N 2Y 6N 2Y 2N 1Y 4N zY
1N uY rN 2jY bN 1mY 9N 9Y 1N oY 4N 1Y 9N 1Y 3N 1Y 5N 17Y 3N 1nY 9N 16Y oN 1Y xN 1iY 3N 1Y iN 1Y 7N
aY 2N tY 3N 1kY 1N 1Y 7N 2Y 2N 2Y 3N 9Y 1N aY 2N qY 1N 2Y 3N 1kY 1N 1Y 5N 4Y 2N 2Y 3N 3Y 1N uY 2N
3Y 1N bY 3N 1kY 1N 1Y 8N 1Y 3N 1Y 3N kY 2N mY 6N 1Y 3N 1kY 1N 1Y 7N 2Y 2N 2Y 3N 7Y 3N aY 2N uY 1N
1nY 5N 3Y 3N 1Y 4N 9Y 1N 14Y 5N 1jY 1N 1Y 7N 1Y 3N 1Y 4N 7Y 2N bY 2N tY 3N 1kY 1N 1Y 7N 1Y 3N 1Y
4N 7Y 2N bY 2N fY 1N cY 4N 1jY 2N 1Y 7N 1Y 3N 1Y 4N 9Y 1N aY 2N tY 3N 1yY 1N 4Y 6N 1Y 1N 1Y 8N iY
2N 1pY 1N 2Y 7N cY 8N 2qY 1N 2Y 9N bY 7N 21Y 2N rY 1N 1Y 1N 1Y 1N 4Y 2N 1dY kN 1Y 2N 5Y bN 1Y 10N
9Y 1N 2sY kN nY 4N 4Y 3N 1Y 3N 2Y 7N 3Y 4N dY cN 1Y 1N aY 4N jjY 3N qaY 4N sY 3N tY 2N uY 2N 1sY
wN 9Y 1N 19Y 3N 1Y 1N 39Y 2N yY 1N 3aY cN 4Y cN 63Y 5N 1lY aN 1Y tN 2Y 1N 1cY 1aN 2Y cN kY 5N 1bY
hN 12Y 9N cY 3N uY dN 1kY eN 1cY kN 48Y 3N 1Y lN 4Y 1N 6Y 1N 2Y 3N 5iY 1sN k0Y xN 2daY 3N 3xY 1N
2oY wN feY 6N 2xY 2N n9wY 4N 1Y aN wY 2N 28Y 2N 7kY 1N 3Y 1N 4Y 1N nY 5N 4Y 1N 2bY 2N 1eY iN qY iN
dY 1N 12Y 8N pY dN 18Y 4N 1bY eN 10Y 1N 1vY eN cY 1N 8Y 2N 19Y 3N 1eY 1N 1Y 3N 2Y 2N 5Y 2N 1Y 1N
15Y 5N 5Y 2N 6kY 8N 1Y 2N fn4Y 1N khY gN gY gN r1Y 1N 6aY 1N 45Y 5N 1aeY 3N 1Y 2N 5Y 4N 14Y 3N 4Y
1N 4lY 2N fxY 4N 1tY 5N 8tY 2N 25Y 6N 1yY bN 1dY 4N 3eY 3N 1hY fN 15Y 1N 2Y 2N aY 4N 19Y bN 7Y 1N
1pY 3N 10Y eN gY 2N 18Y 1N cY 3N 1cY eN 8Y 4N 1Y 2N 2kY cN 6Y 1N 2Y 1N 4dY cN lY 4N 1jY 2N 1Y 7N
2Y 2N 2Y 3N 9Y 1N aY 2N 2Y 7N 3Y 5N 1vY 9N 1Y 1N 2Y 1N 1Y 4N 1Y 5N 1Y 1N eY 2N 2aY iN nY 1N 29Y kN
6jY 7N 2Y 9N rY 2N 2aY hN 2yY dN 2tY fN 74Y fN 6tY 6N 1Y 2N 2Y 4N 1Y 1N 1Y 2N 3xY 7N 2Y 7N 3Y 1N
sY aN 14Y 7N 1Y 4N 8Y 1N 9Y bN 1aY gN 5iY 8N 5jY 8N 1Y 8N 2aY mN 1Y eN 3eY 6N 3Y 1N 1Y 2N 1Y 7N 1Y
1N 1uY 5N 1Y 2N 1Y 5N 9nY 4N 9Y 2N 1Y 1N 1cY 7N 3Y 5N nY 1N 44lY 1N 6Y fN 8ugY iN 1xcY 5N 1nY 7N
t4Y 1N 1Y 1jN 7Y 4N 29Y 1N bY 2N f57Y 2N 3mpY 1aN 2Y nN f2Y 5N 3Y 6N 8Y 8N 2Y 7N uY 4N 44Y 3N 1izY
1jN 4Y 1eN 8Y 1N eY 1N mY 5N 1Y fN 11sY 7N 1Y hN 2Y 7N 1Y 2N 1Y 5N 2sY 1N 4gY 7N afY 1N 1pY 4N e4Y
4N 72Y 2N 6rY 1N 2Y 1N 7Y 2N 5Y 1N d6Y 7N 31Y 7N gzhxY 6oN"

/-- Whether a character is a combining mark. -/
def isMark (c : Char) : Bool := 0x300 ≤ c.toNat && markRuns.contains c

end AcmeClient.Unicode
